import SiteEdit.Identity
import SiteEdit.Text.Find
/-!
# What an identity stands for

The bytes that are hashed give back the address and the user agent as they are joined (`identityBytes_inj`), and they
give back the two of them if the address has no bar (`joined_inj`).  An address with a bar can be confused with another.
-/
namespace SiteEdit

/-! ## Bytes of a text -/

theorem toList_loop (b : ByteArray) (i : Nat) (r : List UInt8) :
    ByteArray.toList.loop b i r = r.reverse ++ b.data.toList.drop i := by
  induction i, r using ByteArray.toList.loop.induct b with
  | case1 i r h ih =>
    rw [ByteArray.toList.loop, if_pos h, ih, List.reverse_cons, List.append_assoc, List.singleton_append]
    have hi : i < b.data.toList.length := h
    rw [List.drop_eq_getElem_cons hi]
    congr 2
    exact getElem!_pos b.data i h
  | case2 i r h =>
    rw [ByteArray.toList.loop, if_neg h, List.drop_eq_nil_of_le (Nat.le_of_not_lt h), List.append_nil]

theorem toList_inj {a b : ByteArray} : a.toList = b.toList ↔ a = b := by
  refine ⟨fun h => ?_, fun h => h ▸ rfl⟩
  unfold ByteArray.toList at h
  rw [toList_loop, toList_loop] at h
  exact ByteArray.ext (Array.toList_inj.1 h)

/-- The text that is hashed for a client. -/
def joined (ip userAgent : String) : String := ip ++ "|" ++ userAgent

/-- The bytes that are hashed say which text they are of. -/
theorem identityBytes_inj {ip ip' userAgent userAgent' : String} :
    identityBytes ip userAgent = identityBytes ip' userAgent' ↔ joined ip userAgent = joined ip' userAgent' :=
  toList_inj.trans String.toByteArray_inj

/-! ## The bar -/

/-- An address without a bar is what stands before the first bar. -/
theorem joined_inj {ip ip' userAgent userAgent' : String} (h : '|' ∉ ip.toList) (h' : '|' ∉ ip'.toList) :
    joined ip userAgent = joined ip' userAgent' ↔ ip = ip' ∧ userAgent = userAgent' := by
  refine ⟨fun he => ?_, fun ⟨hi, hu⟩ => hi ▸ hu ▸ rfl⟩
  have hsplit : ∀ a b : String, '|' ∉ a.toList →
      Text.splitFirst? '|' (joined a b).toList = some (a.toList, b.toList) := fun a b ha => by
    rw [joined, String.toList_append, String.toList_append, List.append_assoc]
    exact Text.splitFirst?_append ha b.toList
  have hs := hsplit ip userAgent h
  rw [he, hsplit ip' userAgent' h', Option.some.injEq, Prod.mk.injEq, String.toList_inj, String.toList_inj] at hs
  exact ⟨hs.1.symm, hs.2.symm⟩

/-! ## Hexadecimal digits -/

theorem digitChar_inj : ∀ m n : Fin 16, Nat.digitChar m = Nat.digitChar n → m = n := by decide

namespace Hash

theorem byte_of_digits {a b : UInt8} (hq : Nat.digitChar (a.toNat / 16) = Nat.digitChar (b.toNat / 16))
    (hr : Nat.digitChar (a.toNat % 16) = Nat.digitChar (b.toNat % 16)) : a = b := by
  have ha : a.toNat / 16 < 16 := Nat.div_lt_of_lt_mul a.toNat_lt
  have hb : b.toNat / 16 < 16 := Nat.div_lt_of_lt_mul b.toNat_lt
  have hq : a.toNat / 16 = b.toNat / 16 := Fin.mk.inj_iff.1 (digitChar_inj ⟨_, ha⟩ ⟨_, hb⟩ hq)
  have hr : a.toNat % 16 = b.toNat % 16 :=
    Fin.mk.inj_iff.1 (digitChar_inj ⟨_, Nat.mod_lt _ (by decide)⟩ ⟨_, Nat.mod_lt _ (by decide)⟩ hr)
  exact UInt8.toNat_inj.1 (by omega)

theorem hex_inj {a b : List UInt8} : hex a = hex b ↔ a = b := by
  refine ⟨fun h => ?_, fun h => h ▸ rfl⟩
  unfold hex at h
  rw [String.ofList_inj] at h
  induction a generalizing b with
  | nil =>
    cases b with
    | nil => rfl
    | cons y ys => cases h
  | cons x xs ih =>
    cases b with
    | nil => cases h
    | cons y ys =>
      simp only [List.flatMap_cons, List.cons_append, List.nil_append, List.cons.injEq] at h
      rw [byte_of_digits h.1 h.2.1, ih h.2.2]

end Hash

/-- Clients whose bytes have the same hash have the same identity, and no others. -/
theorem identityHash_inj {ip ip' userAgent userAgent' : String} :
    identityHash ip userAgent = identityHash ip' userAgent' ↔
      Hash.blake3 (identityBytes ip userAgent) = Hash.blake3 (identityBytes ip' userAgent') := Hash.hex_inj

end SiteEdit
