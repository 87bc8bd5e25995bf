import FabricAudit.Lab.Scripted
import FabricAudit.Proofs.Evidence.Commands
import FabricAudit.Proofs.Verdict.Complete

set_option autoImplicit false

/-! # What a check may touch

A check collects evidence of one kind on the switches that it selects, or gives commands to the
hosts that it probes from, or does neither, and it begins only when its parameters and patterns have
been read. `Check.Asks` and `Check.hosts` say which switches and hosts these are.

`Subject.Frame` is what a relation between states has to satisfy so that it holds of everything that
is made of such steps. `ofCheck_keeps` follows the checks once; what a check can do to the lab and
to the store are instances of it.
-/

namespace FabricAudit

open Audit (Keeps)

variable {σ : Type}

/-! ## Switches and hosts of a check -/

namespace Check

/-- A check asks for evidence of its kind on the nodes that it selects, once its patterns have been
read. -/
structure Asks (c : Check) (i : Inventory) (kind : EvidenceKind) (node : String) : Prop where
  kind_eq : c.kind.evidence? = some kind
  selected : node ∈ c.nodes i
  reads : ∀ text ∈ c.patterns, ∀ f, Pattern.ofText text ≠ .error f

/-- The hosts that a check probes from. -/
def hosts (c : Check) : List String :=
  match c.kind with
  | .pingTargets =>
    match c.readParams PingTargets.reader with
    | .ok p => p.probes.map PingProbe.source
    | .error _ => []
  | .neighborAbsent =>
    match c.readParams NeighborAbsent.reader with
    | .ok p => p.probes.map NeighborProbe.source
    | .error _ => []
  | _ => []

variable {c : Check} {i : Inventory}

/-- Without its parameters a check asks for nothing. -/
theorem not_asks_of_scope {f : ReadFault} (h : c.scope = .error f) (kind : EvidenceKind)
    (node : String) : ¬ c.Asks i kind node := by
  intro hasks
  have hselected := hasks.selected
  rw [nodes, h] at hselected
  cases hselected

/-- Without its parameters a check has no hosts. -/
theorem hosts_eq_nil_of_scope {f : ReadFault} (h : c.scope = .error f) : c.hosts = [] := by
  rw [scope] at h
  rw [hosts]
  split
  · next hkind =>
      rw [hkind] at h
      split
      · next p hp => rw [hp] at h; cases h
      · rfl
  · next hkind =>
      rw [hkind] at h
      split
      · next p hp => rw [hp] at h; cases h
      · rfl
  · rfl

/-- Only checks of reachability and of neighbours have hosts. -/
theorem hosts_eq_nil_of_kind (h : c.kind ≠ .pingTargets) (h' : c.kind ≠ .neighborAbsent) :
    c.hosts = [] := by
  rw [hosts]
  split
  · exact absurd (by assumption) h
  · exact absurd (by assumption) h'
  · rfl

end Check

/-! ## Frames -/

/-- A relation between states that holds of every sequence of steps, if the evidence that is
collected is such as `asks` allows, and commands are given to the shells of the hosts in `probes`
only. -/
structure Subject.Frame (s : Subject σ) (asks : EvidenceKind → String → Prop)
    (probes : String → Prop) (R : Audit.State σ → Audit.State σ → Prop) : Prop where
  refl : ∀ st, R st st
  trans : ∀ {st₁ st₂ st₃}, R st₁ st₂ → R st₂ st₃ → R st₁ st₃
  collect : ∀ kind node, asks kind node → Keeps R (kind.collect s.lab s.transport node)
  shell : ∀ {host}, probes host → ∀ command, Keeps R (Audit.ofWork (s.lab.shell host command))

namespace Subject.Frame

variable {s : Subject σ} {asks asks' : EvidenceKind → String → Prop}
  {probes probes' : String → Prop} {R : Audit.State σ → Audit.State σ → Prop}

/-- A frame for more steps is one for fewer. -/
theorem mono (h : s.Frame asks probes R) (hasks : ∀ {kind node}, asks' kind node → asks kind node)
    (hprobes : ∀ {host}, probes' host → probes host) : s.Frame asks' probes' R :=
  ⟨h.refl, h.trans, fun _ _ ha => h.collect _ _ (hasks ha), fun hp => h.shell (hprobes hp)⟩

variable {α β : Type}

protected theorem pure (h : s.Frame asks probes R) (a : α) : Keeps R (pure a : Audit σ α) :=
  Audit.keeps_pure h.refl a

protected theorem bind (h : s.Frame asks probes R) {m : Audit σ α} {f : α → Audit σ β}
    (hm : Keeps R m) (hf : ∀ a, Keeps R (f a)) : Keeps R (m >>= f) :=
  .bind (R := R) h.trans hm hf

protected theorem mapM (h : s.Frame asks probes R) {f : α → Audit σ β} {xs : List α}
    (hf : ∀ x ∈ xs, Keeps R (f x)) : Keeps R (xs.mapM f) :=
  .mapM (R := R) h.refl h.trans hf

/-- What does not look at the state comes first, and nothing is done if it is a fault. -/
theorem ofExcept_bind (h : s.Frame asks probes R) {e : Except Fault α} {f : α → Audit σ β}
    (hf : ∀ a, e = .ok a → Keeps R (f a)) : Keeps R (Audit.ofExcept e >>= f) :=
  .ofExcept_bind h.refl hf

/-- Parameters are read first, and nothing is done if they do not read. -/
theorem params_bind (h : s.Frame asks probes R) {c : Check} {r : Reader α} {f : α → Audit σ β}
    (hf : ∀ p, c.readParams r = .ok p → Keeps R (f p)) : Keeps R (Audit.params c r >>= f) :=
  h.ofExcept_bind fun p hp => hf p (Except.mapError_eq_ok_iff.mp hp)

/-! ## Probes -/

theorem ping (h : s.Frame asks probes R) {host : String} (hhost : probes host) (target : String)
    (interface : Option String) : Keeps R (Audit.ofWork (Host.ping s.lab host target interface)) :=
  h.shell hhost _

theorem neighbors (h : s.Frame asks probes R) {host : String} (hhost : probes host)
    (interface : String) : Keeps R (Audit.ofWork (Host.neighbors s.lab host interface)) :=
  h.shell hhost _

theorem interfaces (h : s.Frame asks probes R) {host : String} (hhost : probes host) :
    Keeps R (Audit.ofWork (Host.interfaces s.lab host)) := by
  rw [Host.interfaces, Audit.ofWork_bind]
  exact h.bind (h.shell hhost _) fun r => h.pure _

end Subject.Frame

namespace Verdict

variable {s : Subject σ} {c : Check} {asks : EvidenceKind → String → Prop} {probes : String → Prop}
  {R : Audit.State σ → Audit.State σ → Prop}

/-! ## Checks of switches -/

/-- A loop over the selected switches, each of whose steps begins with the evidence on its node. -/
theorem perSwitch_keeps {kind : EvidenceKind} {selector : Selector}
    {rest : String → Record → Audit σ Result}
    (h : s.Frame (c.Asks s.intent.inventory) probes R) (hkind : c.kind.evidence? = some kind)
    (hscope : c.scope = .ok (.nodes selector))
    (hreads : ∀ text ∈ c.patterns, ∀ f, Pattern.ofText text ≠ .error f)
    (hrest : ∀ node record, Keeps R (rest node record)) :
    Keeps R ((selector.resolve s.intent.inventory).mapM fun node => do
      rest node (← kind.collect s.lab s.transport node)) := by
  refine h.mapM fun node hnode => ?_
  have hselected : node ∈ c.nodes s.intent.inventory := by rwa [Check.nodes, hscope]
  exact h.bind (h.collect kind node ⟨hkind, hselected, hreads⟩) (hrest node)

theorem interfacesUp_keeps (h : s.Frame (c.Asks s.intent.inventory) probes R)
    (hkind : c.kind = .interfacesUp) : Keeps R (interfacesUp s c) := by
  refine h.params_bind fun p hp => h.ofExcept_bind fun rules hrules => ?_
  have hevidence : c.kind.evidence? = some .interfaces := by rw [hkind]; rfl
  have hscope : c.scope = .ok (.nodes p.selector) := by rw [Check.scope, hkind, hp]; rfl
  have hpatterns : c.patterns = p.namePatterns ++ p.descriptionPatterns ++ p.ignoredPatterns := by
    rw [Check.patterns, hkind, hp]
  refine perSwitch_keeps h hevidence hscope ?_ fun node record => ?_
  · rw [hpatterns]
    exact reads_of_ofParams hrules
  · exact h.ofExcept_bind fun entries _ => h.pure _

/-- Only checks of interfaces have patterns that may be refused. -/
theorem reads_patterns (hkind : c.kind ≠ .interfacesUp) :
    ∀ text ∈ c.patterns, ∀ f, Pattern.ofText text ≠ .error f := by
  simp [patterns_eq_nil hkind]

theorem bgpEstablished_keeps (h : s.Frame (c.Asks s.intent.inventory) probes R)
    (hkind : c.kind = .bgpEstablished) : Keeps R (bgpEstablished s c) := by
  refine h.params_bind fun p hp => ?_
  have hevidence : c.kind.evidence? = some .sessions := by rw [hkind]; rfl
  have hscope : c.scope = .ok (.nodes p.selector) := by rw [Check.scope, hkind, hp]; rfl
  have hreads := reads_patterns (c := c) (by simp [hkind])
  refine perSwitch_keeps h hevidence hscope hreads fun node record => ?_
  exact h.ofExcept_bind fun found _ => h.pure _

theorem evpnSessionsUp_keeps (h : s.Frame (c.Asks s.intent.inventory) probes R)
    (hkind : c.kind = .evpnSessionsUp) : Keeps R (evpnSessionsUp s c) := by
  refine h.params_bind fun p hp => ?_
  have hevidence : c.kind.evidence? = some .evpnSummary := by rw [hkind]; rfl
  have hscope : c.scope = .ok (.nodes p.selector) := by rw [Check.scope, hkind, hp]; rfl
  have hreads := reads_patterns (c := c) (by simp [hkind])
  refine perSwitch_keeps h hevidence hscope hreads fun node record => ?_
  exact h.ofExcept_bind fun found _ => h.pure _

theorem evpnRoutesPresent_keeps (h : s.Frame (c.Asks s.intent.inventory) probes R)
    (hkind : c.kind = .evpnRoutesPresent) : Keeps R (evpnRoutesPresent s c) := by
  refine h.params_bind fun p hp => ?_
  have hevidence : c.kind.evidence? = some .evpnRoutes := by rw [hkind]; rfl
  have hscope : c.scope = .ok (.nodes p.selector) := by rw [Check.scope, hkind, hp]; rfl
  have hreads := reads_patterns (c := c) (by simp [hkind])
  exact perSwitch_keeps h hevidence hscope hreads fun node record => h.pure _

/-! ## Probes -/

/-- One host is asked for its interfaces, and then pings its targets. -/
theorem pingProbe_keeps (h : s.Frame asks probes R) (interface : Option String) {probe : PingProbe}
    (hprobe : probes probe.source) : Keeps R (pingProbe s c interface probe) := by
  have hping : Keeps R (probe.targets.mapM fun target => do
      let reply ← Audit.ofWork (Host.ping s.lab probe.source target interface)
      pure (pingResult c probe.source target reply) : Audit σ (List Result)) :=
    h.mapM fun target _ => h.bind (h.ping hprobe target interface) fun reply => h.pure _
  cases interface with
  | none => exact hping
  | some i =>
      refine h.bind (h.interfaces hprobe) fun found => ?_
      by_cases hlacks : lacks found i = true
      · rw [if_pos hlacks]
        exact h.pure _
      · rw [if_neg hlacks]
        exact hping

theorem pingTargets_keeps (h : s.Frame asks (· ∈ c.hosts) R) (hkind : c.kind = .pingTargets) :
    Keeps R (pingTargets s c) := by
  refine h.params_bind fun p hp => ?_
  have hhosts : c.hosts = p.probes.map PingProbe.source := by rw [Check.hosts, hkind, hp]
  refine h.bind (h.mapM fun probe hprobe => ?_) fun results => h.pure _
  exact pingProbe_keeps h _ (by rw [hhosts]; exact List.mem_map_of_mem hprobe)

theorem neighborAbsent_keeps (h : s.Frame asks (· ∈ c.hosts) R) (hkind : c.kind = .neighborAbsent) :
    Keeps R (neighborAbsent s c) := by
  refine h.params_bind fun p hp => h.mapM fun probe hprobe => ?_
  have hhosts : c.hosts = p.probes.map NeighborProbe.source := by rw [Check.hosts, hkind, hp]
  have hsource : probe.source ∈ c.hosts := by
    rw [hhosts]
    exact List.mem_map_of_mem hprobe
  refine h.bind (h.ping hsource _ _) fun _ => ?_
  exact h.bind (h.neighbors hsource _) fun reply => h.pure _

/-! ## Every check -/

theorem configContains_keeps (h : s.Frame asks probes R) : Keeps R (configContains s c) :=
  h.params_bind fun _ _ => h.mapM fun _ _ => h.ofExcept_bind fun _ _ => h.pure _

/-- **A check does nothing but collect what it asks for and probe from its hosts.** -/
theorem ofCheck_keeps (h : s.Frame (c.Asks s.intent.inventory) (· ∈ c.hosts) R) :
    Keeps R (ofCheck s c) := by
  rw [ofCheck]
  cases hkind : c.kind with
  | configContains => exact configContains_keeps h
  | interfacesUp => exact interfacesUp_keeps h hkind
  | bgpEstablished => exact bgpEstablished_keeps h hkind
  | evpnRoutesPresent => exact evpnRoutesPresent_keeps h hkind
  | evpnSessionsUp => exact evpnSessionsUp_keeps h hkind
  | pingTargets => exact pingTargets_keeps h hkind
  | neighborAbsent => exact neighborAbsent_keeps h hkind
  | intentDistinct => exact h.params_bind fun _ _ => h.pure _
  | unsupported name => exact h.pure _

/-- A check that crashes leaves what it leaves, too. -/
theorem runCheck_state (s : Subject σ) (c : Check) (st : Audit.State σ) :
    (runCheck s c st).2 = (ofCheck s c st).2 := by
  rw [runCheck_eq]
  rcases ofCheck s c st with ⟨_ | _, _⟩ <;> rfl

/-- A run of checks does what its checks do, one after the other. -/
theorem run_keeps (h : s.Frame (fun _ _ => True) (fun _ => True) R) (mode : RunMode)
    (st : Audit.State σ) : R st (run s mode st).2 := by
  have hchecks : ∀ (cs : List Check) (st : Audit.State σ), R st (cs.mapM (runCheck s) st).2 := by
    intro cs
    induction cs with
    | nil =>
        intro st
        rw [List.mapM_nil]
        exact h.refl st
    | cons c cs ih =>
        intro st
        have hcons : ((c :: cs).mapM (runCheck s) st).2
            = (cs.mapM (runCheck s) (runCheck s c st).2).2 := by
          rw [List.mapM_cons]
          rfl
        rw [hcons, runCheck_state]
        have hcheck : R st (ofCheck s c st).2 :=
          ofCheck_keeps (h.mono (fun _ => trivial) fun _ => trivial) st
        exact h.trans hcheck (ih _)
  exact hchecks _ st

end Verdict

/-! ## Effects -/

/-- What was done between two states: commands of certain kinds were given, and records were kept
under certain keys. -/
structure Audit.State.Adds (commands : Call → Prop) (keys : String → Prop)
    (st st' : Audit.State σ) : Prop where
  calls : ∃ given, st'.world.calls = st.world.calls ++ given ∧ ∀ call ∈ given, commands call
  records : ∀ key ∈ Keyed.keys st'.store.records, key ∈ Keyed.keys st.store.records ∨ keys key

namespace Audit.State.Adds

variable {commands : Call → Prop} {keys : String → Prop}

theorem refl (st : Audit.State σ) : st.Adds commands keys st :=
  ⟨⟨[], (List.append_nil _).symm, nofun⟩, fun _ h => .inl h⟩

theorem trans {st₁ st₂ st₃ : Audit.State σ} (h : st₁.Adds commands keys st₂)
    (h' : st₂.Adds commands keys st₃) : st₁.Adds commands keys st₃ := by
  obtain ⟨given, hgiven, hcommands⟩ := h.calls
  obtain ⟨given', hgiven', hcommands'⟩ := h'.calls
  refine ⟨⟨given ++ given', ?_, ?_⟩, fun key hkey => ?_⟩
  · rw [hgiven', hgiven, List.append_assoc]
  · exact List.forall_mem_append.mpr ⟨hcommands, hcommands'⟩
  · exact (h'.records key hkey).elim (h.records key) .inr

/-- A command for the shell of a host is all that it adds. -/
theorem shell (lab : Lab σ) {host : String} (h : ∀ command, commands ⟨.shell, host, command⟩)
    (command : String) :
    Keeps (Audit.State.Adds commands keys) (Audit.ofWork (lab.shell host command)) :=
  fun _ => ⟨⟨[⟨.shell, host, command⟩], rfl, List.forall_mem_singleton.mpr (h command)⟩,
    fun _ hkey => .inl hkey⟩

/-- **A collector** gives commands to its node, and keeps a record under its key. -/
theorem collect {lab : Lab σ} {t : Transport} {kind : EvidenceKind} {node : String}
    (h : ∀ command, commands ⟨.switch, node, command⟩) (hkey : keys (kind.key node)) :
    Keeps (Audit.State.Adds commands keys) (kind.collect lab t node) := by
  intro st
  rw [kind.collect_eq_run]
  have hy := (kind.collection lab node).run_yields t st
  generalize ((kind.collection lab node).run t st).1 = answer,
    ((kind.collection lab node).run t st).2 = st' at hy
  -- the commands, if there are any, are those of the fallback
  have hgiven : ∃ given, (kind.fallback lab node st.world).2.calls = st.world.calls ++ given ∧
      ∀ call ∈ given, commands call := by
    obtain ⟨given, hgiven, -, -⟩ := kind.fallback_issues lab node st.world
    exact ⟨_, hgiven, List.forall_mem_map.mpr fun command _ => h command⟩
  have hkeep : ∀ (r : Record) (records : Keyed Record), records = st.store.records →
      ∀ key ∈ Keyed.keys (Keyed.insert (kind.key node) r records),
        key ∈ Keyed.keys st.store.records ∨ keys key := by
    rintro r records rfl key hmem
    rcases Keyed.mem_keys_insert.mp hmem with rfl | hmem
    · exact .inr hkey
    · exact .inl hmem
  cases hy with
  | kept => exact .refl st
  | telemetry => exact ⟨⟨[], (List.append_nil _).symm, nofun⟩, hkeep _ _ rfl⟩
  | @found s d w _ hs hf =>
      replace hf : kind.fallback lab node st.world = (.ok d, w) := hf
      rw [hf] at hgiven
      exact ⟨hgiven, hkeep _ _ hs.records_eq⟩
  | @failed s f w _ hs hf =>
      replace hf : kind.fallback lab node st.world = (.error f, w) := hf
      rw [hf] at hgiven
      exact ⟨hgiven, fun key hmem => .inl (by rwa [hs.records_eq] at hmem)⟩

end Audit.State.Adds

namespace Subject.Frame

variable {asks : EvidenceKind → String → Prop} {probes : String → Prop}

/-- What collects nothing and probes from nowhere leaves the state as it is. -/
theorem eq (s : Subject σ) (hasks : ∀ kind node, ¬ asks kind node)
    (hprobes : ∀ host, ¬ probes host) : s.Frame asks probes Eq :=
  ⟨fun _ => rfl, .trans, fun _ _ h => absurd h (hasks _ _), fun h => absurd h (hprobes _)⟩

/-- What collects nothing leaves the store as it is. -/
theorem store_eq (s : Subject σ) (hasks : ∀ kind node, ¬ asks kind node) :
    s.Frame asks probes fun st st' => st'.store = st.store :=
  ⟨fun _ => rfl, fun h h' => h'.trans h, fun _ _ h => absurd h (hasks _ _), fun _ _ _ => rfl⟩

/-- Commands go to the switches whose evidence is collected and to the hosts that are probed from,
and records are kept under the keys of that evidence. -/
theorem adds (s : Subject σ) : s.Frame asks probes
    (Audit.State.Adds
      (fun call => call.channel = .switch ∧ (∃ kind, asks kind call.node) ∨
        call.channel = .shell ∧ probes call.node)
      fun key => ∃ kind node, asks kind node ∧ key = kind.key node) :=
  ⟨.refl, .trans, fun _ _ h => .collect (fun _ => .inl ⟨rfl, _, h⟩) ⟨_, _, h, rfl⟩,
    fun h => .shell s.lab fun _ => .inr ⟨rfl, h⟩⟩

end Subject.Frame

namespace Verdict

variable {s : Subject σ} {c : Check}

/-- A check whose parameters or patterns do not read does nothing. -/
theorem ofCheck_state_of_unread
    (h : (∃ f, c.scope = .error f) ∨ ∃ text ∈ c.patterns, ∃ f, Pattern.ofText text = .error f)
    (st : Audit.State σ) : (ofCheck s c st).2 = st := by
  obtain ⟨hasks, hhosts⟩ : (∀ kind node, ¬ c.Asks s.intent.inventory kind node) ∧ c.hosts = [] := by
    rcases h with ⟨f, hf⟩ | ⟨text, hmem, f, hf⟩
    · exact ⟨Check.not_asks_of_scope hf, Check.hosts_eq_nil_of_scope hf⟩
    · -- only checks of interfaces have patterns, and these have no hosts
      have hkind : c.kind = .interfacesUp := by
        by_contra hne
        rw [patterns_eq_nil hne] at hmem
        cases hmem
      refine ⟨fun _ _ hasks => hasks.reads text hmem f hf, ?_⟩
      exact Check.hosts_eq_nil_of_kind (by rw [hkind]; nofun) (by rw [hkind]; nofun)
  exact (ofCheck_keeps (.eq s hasks (by rw [hhosts]; nofun)) st).symm

/-- A check that looks at no switch asks for nothing. -/
theorem not_asks_of_kind {i : Inventory} (h : c.kind.evidence? = none) (kind : EvidenceKind)
    (node : String) : ¬ c.Asks i kind node := by
  intro hasks
  have hkind := hasks.kind_eq
  rw [h] at hkind
  cases hkind

/-- **All that a check can do.** -/
theorem ofCheck_adds (s : Subject σ) (c : Check) (st : Audit.State σ) : st.Adds
    (fun call => call.channel = .switch ∧ (∃ kind, c.Asks s.intent.inventory kind call.node) ∨
      call.channel = .shell ∧ call.node ∈ c.hosts)
    (fun key => ∃ kind node, c.Asks s.intent.inventory kind node ∧ key = kind.key node)
    (ofCheck s c st).2 :=
  ofCheck_keeps (.adds s) st

/-- A check that looks at no switch leaves the store as it is, and gives commands to its hosts
only. -/
theorem ofCheck_probes (h : c.kind.evidence? = none) (st : Audit.State σ) :
    (ofCheck s c st).2.store = st.store ∧
      ∃ given, (ofCheck s c st).2.world.calls = st.world.calls ++ given ∧
        ∀ call ∈ given, call.channel = .shell ∧ call.node ∈ c.hosts := by
  refine ⟨ofCheck_keeps (.store_eq s (not_asks_of_kind h)) st, ?_⟩
  obtain ⟨given, hgiven, hcommands⟩ := (ofCheck_adds s c st).calls
  refine ⟨given, hgiven, fun call hcall => ?_⟩
  exact (hcommands call hcall).resolve_left fun ⟨_, kind, hasks⟩ => not_asks_of_kind h kind _ hasks

/-- A check that looks at neither switches nor hosts does nothing. -/
theorem ofCheck_state_of_kind (h : c.kind.evidence? = none) (hhosts : c.hosts = [])
    (st : Audit.State σ) : (ofCheck s c st).2 = st :=
  (ofCheck_keeps (.eq s (not_asks_of_kind h) (by rw [hhosts]; nofun)) st).symm

/-- A check that looks at switches gives commands to those that it selects, and keeps records under
the keys of their evidence only. -/
theorem ofCheck_collects {kind : EvidenceKind} (h : c.kind.evidence? = some kind)
    (st : Audit.State σ) : st.Adds
      (fun call => call.channel = .switch ∧ call.node ∈ c.nodes s.intent.inventory)
      (fun key => ∃ node ∈ c.nodes s.intent.inventory, key = kind.key node) (ofCheck s c st).2 := by
  have hhosts : c.hosts = [] :=
    Check.hosts_eq_nil_of_kind (fun hk => by rw [hk] at h; cases h)
      fun hk => by rw [hk] at h; cases h
  obtain ⟨⟨given, hgiven, hcommands⟩, hrecords⟩ := ofCheck_adds s c st
  refine ⟨⟨given, hgiven, fun call hcall => ?_⟩, fun key hkey => ?_⟩
  · obtain ⟨hchannel, _, hasks⟩ | ⟨-, hhost⟩ := hcommands call hcall
    · exact ⟨hchannel, hasks.selected⟩
    · rw [hhosts] at hhost
      cases hhost
  · refine (hrecords key hkey).imp_right ?_
    rintro ⟨kind', node, hasks, rfl⟩
    obtain rfl : kind = kind' := Option.some.inj (h.symm.trans hasks.kind_eq)
    exact ⟨node, hasks.selected, rfl⟩

/-- **What a check may touch**, from whatever state it begins and however it ends.

If its parameters or one of its patterns do not read, it does nothing at all: the lab is given no
command, the transport is asked for nothing, and the store stays as it is. The same goes for checks
of desired configurations and of the intent, and for those of a kind that is not known. Checks of
reachability and of neighbours only give commands to the shells of the hosts that they probe from,
and leave the store alone. All others only give commands to the command lines of the nodes that they
select, and only keep records under the keys that their kind of evidence has for these nodes. -/
theorem runCheck_frame (s : Subject σ) (c : Check) (st : Audit.State σ) :
    ((∃ f, c.scope = .error f) ∨ (∃ text ∈ c.patterns, ∃ f, Pattern.ofText text = .error f) →
      (runCheck s c st).2 = st) ∧
    (c.kind = .configContains ∨ c.kind = .intentDistinct ∨ (∃ name, c.kind = .unsupported name) →
      (runCheck s c st).2 = st) ∧
    (c.kind = .pingTargets ∨ c.kind = .neighborAbsent →
      (runCheck s c st).2.store = st.store ∧
      ∃ given, (runCheck s c st).2.world.calls = st.world.calls ++ given ∧
        ∀ call ∈ given, call.channel = .shell ∧ call.node ∈ c.hosts) ∧
    ∀ kind, c.kind.evidence? = some kind →
      (∃ given, (runCheck s c st).2.world.calls = st.world.calls ++ given ∧
        ∀ call ∈ given, call.channel = .switch ∧ call.node ∈ c.nodes s.intent.inventory) ∧
      ∀ key ∈ Keyed.keys (runCheck s c st).2.store.records,
        key ∈ Keyed.keys st.store.records ∨
          ∃ node ∈ c.nodes s.intent.inventory, key = kind.key node := by
  rw [runCheck_state]
  refine ⟨fun h => ofCheck_state_of_unread h st, fun hkind => ?_, fun hkind => ?_,
    fun kind hkind => ?_⟩
  · obtain ⟨hevidence, hhosts⟩ : c.kind.evidence? = none ∧ c.hosts = [] := by
      rcases hkind with hkind | hkind | ⟨name, hkind⟩ <;>
        exact ⟨by rw [hkind]; rfl,
          Check.hosts_eq_nil_of_kind (by rw [hkind]; nofun) (by rw [hkind]; nofun)⟩
    exact ofCheck_state_of_kind hevidence hhosts st
  · have hevidence : c.kind.evidence? = none := by
      rcases hkind with hkind | hkind <;> (rw [hkind]; rfl)
    exact ofCheck_probes hevidence st
  · exact ⟨(ofCheck_collects hkind st).calls, (ofCheck_collects hkind st).records⟩

def leafFabric : Subject Unit :=
  ⟨⟨"lab", .standard, .empty, [], [], .object []⟩,
    (Script.empty.addNode "leaf1" "ceos").lab (FileTree.empty []) "/lab", .disabled .standard⟩

/-- A check of interfaces with a pattern that does not read. -/
def brokenPattern : Check :=
  ⟨"interfaces", .underlay, .interfacesUp, .error,
    [("required_interface_regex", .list [.text "("])]⟩

theorem runCheck_frame_brokenPattern :
    brokenPattern.patterns = ["("] ∧
      (runCheck leafFabric brokenPattern (Audit.fresh ⟨(), []⟩)).2 = Audit.fresh ⟨(), []⟩ := by
  have hpatterns : brokenPattern.patterns = ["("] := by decide +kernel
  have hunread : Pattern.ofText "(" = .error _ := rfl
  obtain ⟨hframe, -⟩ := runCheck_frame leafFabric brokenPattern (Audit.fresh ⟨(), []⟩)
  exact ⟨hpatterns, hframe (.inr ⟨"(", by simp [hpatterns], _, hunread⟩)⟩

end Verdict

end FabricAudit
