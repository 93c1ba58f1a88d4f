import ControlPlane.Record.Key
import ControlPlane.Store.Error

/-!
Addresses: where a store keeps a record. A store held in memory keeps it under its kind and key; a
durable store keeps it under bytes, one tree for each kind.
-/

namespace ControlPlane

/-- When a store draws the identity of a record that comes without one. -/
inductive Drawing where
  /-- When the key of the record was found free. -/
  | onceFree
  /-- Before the key is looked at, so that the identity is lost if the record is not stored. -/
  | beforehand
  deriving DecidableEq, Inhabited

/-- A scheme of addresses, ordered so that a listing is in the order of kinds and keys. -/
class Address (κ : Type) extends Ord κ where
  trans : Std.TransOrd κ
  lawful : Std.LawfulEqOrd κ
  /-- The address of a record. -/
  of : Kind → RecordKey → κ
  /-- The kind of the records at an address. -/
  kind : κ → Kind
  /-- Whether a listing of a namespace covers an address. -/
  isWithin : String → κ → Bool
  /-- Why no record can be created at a key. -/
  refusal? : RecordKey → Option StoreError
  /-- When a store with such addresses draws the identity of a new record. -/
  drawing : Drawing
  /-- An address tells the kind of the record. -/
  kind_of : ∀ k key, kind (of k key) = k
  /-- Whether a key is refused lies in its namespace. -/
  refusal?_congr : ∀ {a b : RecordKey}, a.namespace = b.namespace → refusal? a = none →
    refusal? b = none
  /-- Keys that are not refused have addresses of their own. -/
  of_inj : ∀ {k a b}, refusal? a = none → refusal? b = none → of k a = of k b → a = b
  /-- Keys with one address for a kind have one for every kind. -/
  of_congr : ∀ {k l a b}, of k a = of k b → of l a = of l b

attribute [instance] Address.trans Address.lawful

/-! ### Kinds and keys as addresses -/

instance : Address RecordId where
  trans := RecordId.instTransOrd
  lawful := RecordId.instLawfulEqOrd
  of := .mk
  kind := RecordId.kind
  isWithin ns i := i.key.namespace == ns
  refusal? _ := none
  drawing := .onceFree
  kind_of _ _ := rfl
  refusal?_congr _ _ := rfl
  of_inj _ _ h := (RecordId.mk.inj h).2
  of_congr h := congrArg _ (RecordId.mk.inj h).2

/-! ### Bytes as addresses -/

/-- An address of bytes in the tree of a kind. -/
structure ByteAddress where
  kind : Kind
  bytes : List UInt8
  deriving DecidableEq, Inhabited

namespace ByteAddress

instance : Ord ByteAddress := ⟨compareLex (compareOn (·.kind)) (compareOn (·.bytes))⟩

theorem compare_def (a b : ByteAddress) :
    compare a b = (compare a.kind b.kind).then (compare a.bytes b.bytes) := rfl

instance : Std.TransOrd ByteAddress :=
  inferInstanceAs (Std.TransCmp (compareLex
    (compareOn fun a : ByteAddress => a.kind) (compareOn fun a : ByteAddress => a.bytes)))

instance : Std.LawfulEqOrd ByteAddress where
  compare_self {a} := by simp
  eq_of_compare {a b} h := by
    rw [compare_def, Ordering.then_eq_eq] at h
    obtain ⟨h₁, h₂⟩ := h
    have e₁ : a.kind = b.kind := Std.LawfulEqCmp.eq_of_compare h₁
    have e₂ : a.bytes = b.bytes := Std.LawfulEqCmp.eq_of_compare h₂
    cases a; cases b; simp_all

/-- The bytes of a text. -/
def encode (s : String) : List UInt8 := s.toUTF8.data.toList

/-- A namespace and the byte that ends it, below every other byte. -/
def namespaceBytes (ns : String) : List UInt8 := encode ns ++ [0]

/-- A namespace, the byte that ends it, and a name. -/
def keyBytes (key : RecordKey) : List UInt8 := namespaceBytes key.namespace ++ encode key.name

/-- Texts with the same bytes are the same. -/
theorem encode_inj {s t : String} (h : encode s = encode t) : s = t := by
  apply String.toByteArray_inj.mp
  apply ByteArray.ext
  exact Array.toList_inj.mp h

/-- What stands before the first zero byte, and what stands after it, can be told apart. -/
theorem split_at_zero {a b c d : List UInt8} (ha : 0 ∉ a) (hb : 0 ∉ b)
    (h : a ++ [0] ++ c = b ++ [0] ++ d) : a = b ∧ c = d := by
  induction a generalizing b with
  | nil =>
    cases b with
    | nil => simpa using h
    | cons y b =>
      obtain ⟨rfl, -⟩ := List.cons.inj h
      exact absurd List.mem_cons_self hb
  | cons x a ih =>
    cases b with
    | nil =>
      obtain ⟨rfl, -⟩ := List.cons.inj h
      exact absurd List.mem_cons_self ha
    | cons y b =>
      obtain ⟨rfl, rest⟩ := List.cons.inj h
      obtain ⟨rfl, rfl⟩ := ih (fun m => ha (List.mem_cons_of_mem _ m))
        (fun m => hb (List.mem_cons_of_mem _ m)) rest
      exact ⟨rfl, rfl⟩

/-- Keys whose namespaces have no zero byte are told apart by their bytes. -/
theorem keyBytes_inj {a b : RecordKey} (ha : 0 ∉ encode a.namespace)
    (hb : 0 ∉ encode b.namespace) (h : keyBytes a = keyBytes b) : a = b := by
  obtain ⟨hn, hm⟩ := split_at_zero ha hb h
  have e₁ := encode_inj hn
  have e₂ := encode_inj hm
  cases a; cases b; simp_all

/-- Why a key is refused: the byte that ends a namespace stands inside it. -/
def refusal? (key : RecordKey) : Option StoreError :=
  if (encode key.namespace).contains 0 then
    some (.backend ("namespace of " ++ key.text ++ " contains a NUL byte"))
  else none

theorem refusal?_eq_none_iff {key : RecordKey} :
    refusal? key = none ↔ 0 ∉ encode key.namespace := by
  simp [refusal?]

instance : Address ByteAddress where
  trans := instTransOrd
  lawful := instLawfulEqOrd
  of kind key := ⟨kind, keyBytes key⟩
  kind := ByteAddress.kind
  isWithin ns a := (namespaceBytes ns).isPrefixOf a.bytes
  refusal? := refusal?
  drawing := .beforehand
  kind_of _ _ := rfl
  refusal?_congr h ha := refusal?_eq_none_iff.mpr (h ▸ refusal?_eq_none_iff.mp ha)
  of_inj ha hb h := keyBytes_inj (refusal?_eq_none_iff.mp ha) (refusal?_eq_none_iff.mp hb)
    (congrArg bytes h)
  of_congr h := congrArg (ByteAddress.mk _) (congrArg bytes h)

end ByteAddress

end ControlPlane
