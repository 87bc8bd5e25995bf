import FabricAudit.Proofs.Document.Injective
import FabricAudit.Proofs.Document.Reordered
import FabricAudit.Proofs.Drift.Evidence

set_option autoImplicit false

/-! # What fingerprints tell apart

A fingerprint is the digest of the compact form of a document. No two documents have the same
compact form, and the order in which members were written does not show in it, so two fingerprints
are equal exactly if the documents are the same, unless the two texts collide. This holds of the
evidence that the fingerprint of a node is taken of, and of the inventory and services that the
fingerprint of an intent is taken of (`Document.compact_canonical`).
-/

namespace FabricAudit

/-! ## Collisions -/

/-- Two texts with the same digest. -/
def Sha256.Collide (s t : String) : Prop := s ≠ t ∧ digest s = digest t

instance (s t : String) : Decidable (Sha256.Collide s t) := inferInstanceAs (Decidable (_ ∧ _))

/-- Digests tell texts apart that do not collide. -/
theorem Sha256.digest_eq_iff {s t : String} (h : ¬ Collide s t) : digest s = digest t ↔ s = t := by
  constructor
  · intro hdigest
    by_contra hne
    exact h ⟨hne, hdigest⟩
  · rintro rfl
    rfl

/-! ## Fingerprints -/

namespace Drift

/-- A bundle is told by its two parts. -/
theorem bundle_inj {interfaces sessions interfaces' sessions' : Document} :
    bundle interfaces sessions = bundle interfaces' sessions' ↔
      interfaces = interfaces' ∧ sessions = sessions' := by
  simp [bundle_eq, and_comm]

/-- Nodes have the same fingerprint exactly if the evidence has the same digest: the number of kinds
of evidence is the same for all. -/
theorem fingerprintOf_eq_iff {interfaces sessions interfaces' sessions' : Document} :
    fingerprintOf interfaces sessions = fingerprintOf interfaces' sessions' ↔
      Sha256.digest (bundle interfaces sessions).compact
        = Sha256.digest (bundle interfaces' sessions').compact := by
  rw [fingerprintOf_eq, fingerprintOf_eq, bundle_eq, bundle_eq, Fingerprint.mk.injEq]
  exact and_iff_left rfl

end Drift

/-- **The compact form is canonical.** It is the same for two documents exactly if they are equal;
where all numbers are integers, this is to say that they are the same. It does not depend on the
order in which members were written, at any depth. So unless the two texts collide, the digests of
two documents are equal exactly if the documents are: two nodes have the same fingerprint exactly if
they have the same interfaces and sessions, and two intents exactly if they have the same
essence. -/
theorem Document.compact_canonical :
    (∀ d e : Document, d.compact = e.compact ↔ d = e) ∧
    (∀ d e : Document, d.Integral → e.Integral → (d.compact = e.compact ↔ d.same e = true)) ∧
    (∀ (x y : Draft) (d e : Document), Relation.ReflTransGen Draft.Reordered x y →
      x.toDocument = .ok d → y.toDocument = .ok e → d.compact = e.compact) ∧
    (∀ d e : Document, ¬ Sha256.Collide d.compact e.compact →
      (Sha256.digest d.compact = Sha256.digest e.compact ↔ d = e)) ∧
    (∀ interfaces sessions interfaces' sessions' : Document,
      ¬ Sha256.Collide (Drift.bundle interfaces sessions).compact
        (Drift.bundle interfaces' sessions').compact →
      (Drift.fingerprintOf interfaces sessions = Drift.fingerprintOf interfaces' sessions' ↔
        interfaces = interfaces' ∧ sessions = sessions')) ∧
    (∀ i j : Intent, ¬ Sha256.Collide i.essence.compact j.essence.compact →
      (i.fingerprint = j.fingerprint ↔ i.essence = j.essence)) := by
  refine ⟨fun d e => compact_inj, fun d e hd he => ?_, fun x y d e hxy hx hy => ?_,
    fun d e hcollide => ?_, fun interfaces sessions interfaces' sessions' hcollide => ?_,
    fun i j hcollide => ?_⟩
  · rw [compact_inj, same_iff_eq hd he]
  · have hread := Draft.toDocument_reordered hxy hx
    rw [hy] at hread
    rw [Except.ok.inj hread]
  · rw [Sha256.digest_eq_iff hcollide, compact_inj]
  · rw [Drift.fingerprintOf_eq_iff, Sha256.digest_eq_iff hcollide, compact_inj, Drift.bundle_inj]
  · rw [Intent.fingerprint, Intent.fingerprint, Sha256.digest_eq_iff hcollide, compact_inj]

def Draft.someObject : Draft :=
  .object [("b", .int 1), ("a", .object [("y", .int 2), ("x", .int 3)] none)] none

/-- The same object, with its members in another order at both depths. -/
def Draft.sameObject : Draft :=
  .object [("a", .object [("x", .int 3), ("y", .int 2)] none), ("b", .int 1)] none

theorem Draft.someObject_reordered : Relation.ReflTransGen Reordered someObject sameObject :=
  .tail (.single (.member "a" [("b", .int 1)] [] none (.here (.swap _ _ _) (by decide))))
    (.here (.swap _ _ _) (by decide))

/-- The document of either object; and the evidence of a node that has answered with an empty list
of interfaces or with none. -/
theorem Document.compact_canonical_twoOrders :
    (∃ d e : Document, Draft.someObject.toDocument = .ok d ∧
      Draft.sameObject.toDocument = .ok e ∧ d.compact = e.compact ∧ d.same e = true) ∧
    Drift.fingerprintOf (.list []) .null ≠ Drift.fingerprintOf .null .null := by
  obtain ⟨-, hsame, horder, -, hnodes, -⟩ := compact_canonical
  constructor
  · have hcompact := horder _ _ _ _ Draft.someObject_reordered rfl rfl
    refine ⟨_, _, rfl, rfl, hcompact, (hsame _ _ ?_ ?_).mp hcompact⟩ <;>
      simp [integral_ofPairs, Integral]
  · have hcollide : ¬ Sha256.Collide (Drift.bundle (.list []) .null).compact
        (Drift.bundle .null .null).compact := by
      rw [Drift.bundle_eq, Drift.bundle_eq]
      decide +kernel
    rw [Ne, hnodes _ _ _ _ hcollide]
    simp

end FabricAudit
