import ControlPlane.Manifest.Basic
import ControlPlane.Store.Client

/-!
The application of manifests: each declared record is made to stand in the store. Packages come
before functions and functions before agents, so that what a record refers to is there before it.
-/

namespace ControlPlane.Manifest

/-- The place of a kind in the order of application. -/
def rank : Kind → Nat
  | .package => 0
  | .function => 1
  | .agent => 2

/-- Manifests in the order of application; those of one kind stay in their order. -/
def inOrder (ms : List Manifest) : List Manifest :=
  ms.mergeSort fun a b => rank a.kind ≤ rank b.kind

/-- Applies one manifest; tells whether a record was written. -/
def applyOne (m : Manifest) : Attempt StoreError Bool := do
  let before ← Attempt.outcome (.get m.kind m.key)
  let applied ← Client.apply m.kind m.record
  pure (before.toOption.map (·.metadata.resourceVersion) != some applied.metadata.resourceVersion)

/-- Applies manifests one after another; the number of records that were written. -/
def applyEach : List Manifest → Attempt StoreError Nat
  | [] => pure 0
  | m :: rest => do
    let written ← applyOne m
    pure ((← applyEach rest) + written.toNat)

/-- Applies manifests in the order of application. -/
def applyAll (ms : List Manifest) : Attempt StoreError Nat := applyEach (inOrder ms)

end ControlPlane.Manifest
