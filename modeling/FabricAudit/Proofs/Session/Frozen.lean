import FabricAudit.Proofs.Evidence.Settled
import FabricAudit.Proofs.Evidence.Spending
import FabricAudit.Proofs.Session.Frame

set_option autoImplicit false

/-! # Evidence is frozen

The turns of a session may be taken in different scenes: between two of them the lab may be
rescripted, and the intent may change. What a check of switches or a snapshot has found once is what
it finds from then on, because all of it is read off the store (`ofCheck_settles`,
`snapshot_settles`), which every turn only adds to. And a command that was answered is not given
again, because its answer is part of a record (`count_answered_le`).
-/

namespace FabricAudit

open Audit (Settles)

variable {σ : Type}

/-! ## What settles -/

namespace Verdict

/-- **A check of switches settles**, as long as the inventory is the same. -/
theorem ofCheck_settles {s s' : Subject σ} (hinventory : s'.intent.inventory = s.intent.inventory)
    {c : Check} (hkind : c.kind.evidence? ≠ none) : Settles (ofCheck s c) (ofCheck s' c) := by
  have hcollect : ∀ (kind : EvidenceKind) (node : String),
      Settles (kind.collect s.lab s.transport node) (kind.collect s'.lab s'.transport node) :=
    fun kind node => kind.collect_settles _ _ _ _ node
  rw [ofCheck, ofCheck]
  cases hc : c.kind with
  | interfacesUp =>
      refine (Settles.ofExcept _).bind fun p => (Settles.ofExcept _).bind fun rules => ?_
      rw [hinventory]
      refine .mapM (fun node => (hcollect .interfaces node).bind fun record => ?_) _
      exact (Settles.ofExcept _).bind fun entries => .pure _
  | bgpEstablished =>
      refine (Settles.ofExcept _).bind fun p => ?_
      rw [hinventory]
      refine .mapM (fun node => (hcollect .sessions node).bind fun record => ?_) _
      exact (Settles.ofExcept _).bind fun found => .pure _
  | evpnRoutesPresent =>
      refine (Settles.ofExcept _).bind fun p => ?_
      rw [hinventory]
      exact .mapM (fun node => (hcollect .evpnRoutes node).bind fun record => .pure _) _
  | evpnSessionsUp =>
      refine (Settles.ofExcept _).bind fun p => ?_
      rw [hinventory]
      refine .mapM (fun node => (hcollect .evpnSummary node).bind fun record => ?_) _
      exact (Settles.ofExcept _).bind fun found => .pure _
  | _ => exact absurd (by rw [hc]; rfl) hkind

end Verdict

namespace Drift

/-- **The fingerprints of a fabric settle**, as long as it has the same nodes. -/
theorem prints_settle {s s' : Subject σ} (hnodes : s'.lab.fabricNodes = s.lab.fabricNodes) :
    Settles (s.lab.fabricNodes.mapM (fingerprint s))
      (s'.lab.fabricNodes.mapM (fingerprint s')) := by
  rw [hnodes]
  refine .mapM (fun node => ?_) _
  refine (EvidenceKind.collect_settles _ _ _ _ .interfaces node).bind fun interfaces => ?_
  exact (EvidenceKind.collect_settles _ _ _ _ .sessions node).bind fun sessions => .pure _

/-- A snapshot that succeeds later has the same fingerprints, and nothing else happens. -/
theorem snapshot_settles {s s' : Subject σ} (hnodes : s'.lab.fabricNodes = s.lab.fabricNodes)
    {now : Timestamp} {st st' later : Audit.State σ} {current : Snapshot}
    (h : snapshot s now st = (.ok current, st')) (hlater : st'.Grows later) (now' : Timestamp) :
    snapshot s' now' later
      = (.ok ⟨s'.intent.lab, now', s'.intent.fingerprint, current.fingerprints⟩, later) := by
  obtain ⟨prints, st₁, hprints, h⟩ := Audit.bind_eq_ok_iff.mp h
  rw [Audit.pure_apply] at h
  cases h
  obtain ⟨-, hrepeats⟩ := prints_settle hnodes hprints
  rw [snapshot, Audit.bind_ok (hrepeats later hlater), Audit.pure_apply]

end Drift

/-! ## Scenes and turns -/

namespace Session

/-- An intent, a scripted lab with a directory of desired configurations, and the files of it, as
they are at some moment. -/
structure Scene where
  intent : Intent
  script : Script
  files : FileTree
  directory : String

def Scene.subject (t : Transport) (x : Scene) : Subject Unit :=
  ⟨x.intent, x.script.lab x.files x.directory, t⟩

/-- A step of a session with the scene in which it is taken. -/
structure Turn where
  scene : Scene
  now : Timestamp
  step : Step

variable {t : Transport}

def Turn.after (t : Transport) (turn : Turn) (st : Audit.State Unit) : Audit.State Unit :=
  (turn.step.perform (turn.scene.subject t) turn.now st).2

def Turn.answered (t : Transport) (turn : Turn) (st : Audit.State Unit) : List Call :=
  turn.scene.script.answered ((turn.after t st).world.calls.drop st.world.calls.length)

def after (t : Transport) (turns : List Turn) (st : Audit.State Unit) : Audit.State Unit :=
  turns.foldl (fun st turn => turn.after t st) st

def answered (t : Transport) : List Turn → Audit.State Unit → List Call
  | [], _ => []
  | turn :: turns, st => turn.answered t st ++ answered t turns (turn.after t st)

/-- In every scene evidence is added and paid for. -/
theorem Scene.pays (t : Transport) (x : Scene) :
    (x.subject t).Frame (fun _ _ => True) (fun _ => True) (Pays x.script) :=
  ⟨.refl, .trans, fun kind node _ => Pays.collect t kind node, fun _ => Pays.shell _⟩

theorem Turn.after_pays (t : Transport) (turn : Turn) (st : Audit.State Unit) :
    Pays turn.scene.script st (turn.after t st) :=
  Step.perform_keeps (turn.scene.pays t) turn.now turn.step st

theorem after_grows (t : Transport) (turns : List Turn) (st : Audit.State Unit) :
    st.Grows (after t turns st) := by
  induction turns generalizing st with
  | nil => exact .refl st
  | cons turn turns ih => exact (turn.after_pays t st).grows.trans (ih _)

/-- **Whatever a session was answered, its records have been paid for with it.** -/
theorem count_answered_add_spent_le (t : Transport) (turns : List Turn) (st : Audit.State Unit)
    (node command : String) :
    (answered t turns st).count ⟨.switch, node, command⟩ + st.store.spent node command
      ≤ (after t turns st).store.spent node command := by
  induction turns generalizing st with
  | nil => exact (Nat.zero_add _).le
  | cons turn turns ih =>
      obtain ⟨given, hgiven, hpaid⟩ := (turn.after_pays t st).calls
      have hturn : turn.answered t st = turn.scene.script.answered given := by
        rw [Turn.answered, hgiven, List.drop_left]
      have hfirst := hpaid node command
      have hrest := ih (turn.after t st)
      rw [answered, List.count_append, hturn]
      show _ ≤ (after t turns (turn.after t st)).store.spent node command
      omega

/-- A session is answered a command at most as often as all collectors together use it. -/
theorem count_answered_le (t : Transport) (turns : List Turn) (st : Audit.State Unit)
    (node command : String) :
    (answered t turns st).count ⟨.switch, node, command⟩ ≤ EvidenceKind.uses command := by
  have hpaid := count_answered_add_spent_le t turns st node command
  have hbound := (after t turns st).store.spent_le_uses node command
  omega

/-- **Evidence is frozen**, however the lab is rescripted between the turns of a session, and
whatever the transport says.

If a check of switches has completed in one scene, then after any turns and in any scene with the
same inventory it completes with the same results; and that is all that happens, the lab is given no
command and the transport is asked for nothing. If a snapshot has succeeded in one scene, then after
any turns and in any scene with the same nodes of the fabric it succeeds with the same fingerprints,
and nothing else happens either. And however many turns there are, every node answers each command
of the collectors at most once, and the one for the table of BGP sessions, which two collectors need,
at most twice. -/
theorem evidence_frozen (t : Transport) :
    (∀ (x : Scene) (c : Check) (st st' : Audit.State Unit) (rs : List Result),
      c.kind = .interfacesUp ∨ c.kind = .bgpEstablished ∨ c.kind = .evpnRoutesPresent ∨
        c.kind = .evpnSessionsUp →
      Verdict.ofCheck (x.subject t) c st = (.ok rs, st') →
      Verdict.runCheck (x.subject t) c st = (rs, st') ∧
      ∀ (turns : List Turn) (y : Scene), y.intent.inventory = x.intent.inventory →
        Verdict.ofCheck (y.subject t) c (after t turns st') = (.ok rs, after t turns st') ∧
        Verdict.runCheck (y.subject t) c (after t turns st') = (rs, after t turns st')) ∧
    (∀ (x : Scene) (now : Timestamp) (st st' : Audit.State Unit) (current : Snapshot),
      Drift.snapshot (x.subject t) now st = (.ok current, st') →
      ∀ (turns : List Turn) (y : Scene) (now' : Timestamp),
        (y.subject t).lab.fabricNodes = (x.subject t).lab.fabricNodes →
        Drift.snapshot (y.subject t) now' (after t turns st')
          = (.ok ⟨y.intent.lab, now', y.intent.fingerprint, current.fingerprints⟩,
              after t turns st')) ∧
    ∀ (w : World Unit) (turns : List Turn) (node : String),
      (∀ command ∈ ["show interfaces description", "show running-config", "show bgp evpn",
          "show bgp evpn summary"],
        (answered t turns (Audit.fresh w)).count ⟨.switch, node, command⟩ ≤ 1) ∧
      (answered t turns (Audit.fresh w)).count ⟨.switch, node, "show bgp summary"⟩ ≤ 2 := by
  refine ⟨fun x c st st' rs hkind hrun => ?_,
    fun x now st st' current hrun turns y now' hnodes => ?_,
    fun w turns node => ⟨fun command hcommand => ?_, count_answered_le t turns _ _ _⟩⟩
  · have hevidence : c.kind.evidence? ≠ none := by
      rcases hkind with h | h | h | h <;> (rw [h]; nofun)
    refine ⟨by rw [Verdict.runCheck_eq, hrun], fun turns y hinventory => ?_⟩
    have hsettles : Settles (Verdict.ofCheck (x.subject t) c) (Verdict.ofCheck (y.subject t) c) :=
      Verdict.ofCheck_settles hinventory hevidence
    have hlater := (hsettles hrun).2 (after t turns st') (after_grows t turns st')
    exact ⟨hlater, by rw [Verdict.runCheck_eq, hlater]⟩
  · exact Drift.snapshot_settles hnodes hrun (after_grows t turns st') now'
  · refine (count_answered_le t turns _ node command).trans ?_
    fin_cases hcommand <;> decide

def leafCheck : Check :=
  ⟨"bgp", .controlPlane, .bgpEstablished, .error,
    [("selector", .object [("node", .text "leaf1")])]⟩

def leafScene : Scene :=
  ⟨⟨"lab", .standard, .empty, [], [], .object []⟩, Script.empty.addNode "leaf1" "ceos",
    .empty [], "/lab"⟩

/-- The same lab after the switch has gone. -/
def goneScene : Scene :=
  { leafScene with script := leafScene.script.breakNode "leaf1" "no such container" }

/-- The check crashes where the switch has gone, but not after it has completed once. -/
theorem evidence_frozen_goneScene :
    (Verdict.ofCheck (goneScene.subject (.static [])) leafCheck (Audit.fresh ⟨(), []⟩)).1.isOk
      = false ∧
    ∃ rs st', Verdict.ofCheck (leafScene.subject (.static [])) leafCheck (Audit.fresh ⟨(), []⟩)
        = (.ok rs, st') ∧
      let later := after (.static []) [⟨goneScene, .epoch, .snapshot⟩] st'
      Verdict.ofCheck (goneScene.subject (.static [])) leafCheck later = (.ok rs, later) := by
  have hdone : Verdict.ofCheck (leafScene.subject (.static [])) leafCheck (Audit.fresh ⟨(), []⟩)
      = (.ok _, _) := rfl
  obtain ⟨hcheck, -, -⟩ := evidence_frozen (.static [])
  obtain ⟨-, hlater⟩ := hcheck leafScene leafCheck _ _ _ (.inr (.inl rfl)) hdone
  exact ⟨rfl, _, _, hdone, (hlater _ goneScene rfl).1⟩

end Session

end FabricAudit
