import FabricAudit.Proofs.Audit.Exchange
import FabricAudit.Proofs.Text.Search
import FabricAudit.Proofs.Verdict.Switches
import FabricAudit.Proofs.Verdict.Wording

set_option autoImplicit false

/-! # Probes as exchanges

Checks of reachability and of neighbours go from probe to probe, and for each of them the shell of
its source is given a few commands. Which ones these are may depend on a reply: if a probe goes
through an interface, the interfaces are listed first, and nothing is pinged if the listing succeeds
without showing this one. `PingRound` and `NeighborRound` say of one probe which commands are given,
word by word, and what the results make of the replies, and `probes_exchange` says that a check
consists of such rounds, on every lab that executes all commands.

Of the two commands for a neighbour only the second one counts: two rounds with the same list of
neighbours end in the same way, however the pings went (`NeighborRound.status_eq`).
-/

namespace FabricAudit

/-- A listing shows an interface on one of its lines, perhaps with an at sign and more after the
name. -/
def Host.Shows (listing interface : String) : Prop :=
  ∃ line ∈ Text.linesChars listing.toList, Text.trimChars line ≠ [] ∧
    (Text.trimChars line).takeWhile (· != '@') = interface.toList

instance (listing interface : String) : Decidable (Host.Shows listing interface) :=
  inferInstanceAs (Decidable (∃ line ∈ Text.linesChars listing.toList, _))

theorem Host.mem_namesOf_iff {listing interface : String} :
    interface ∈ namesOf listing ↔ Shows listing interface := by
  rw [namesOf, List.filterMap_map, List.mem_filterMap, Shows]
  refine exists_congr fun line => and_congr_right fun _ => ?_
  rw [Function.comp_apply, Option.ite_none_left_eq_some, List.isEmpty_iff, Option.some_inj,
    ← String.toList_inj, String.toList_ofList]

namespace Host

/-- The call that lists the interfaces of a host. -/
def listCall (host : String) : Call :=
  ⟨.shell, host, "ip -o link show | awk -F': ' '\x7bprint $2\x7d'"⟩

/-- The call that pings an address from a host. -/
def pingCall (host target : String) : Call := ⟨.shell, host, "ping -c 2 -W 1 " ++ target⟩

/-- The call that pings an address through an interface of a host. -/
def pingCallVia (host interface target : String) : Call :=
  ⟨.shell, host, "ping -I " ++ interface ++ " -c 2 -W 1 " ++ target⟩

/-- The call that looks up the neighbours of an interface of a host. -/
def neighborCall (host interface : String) : Call :=
  ⟨.shell, host, "ip neigh show dev " ++ interface⟩

/-- The call is the one that is given, unless the name of the interface is empty. -/
theorem pingCallVia_eq (host target : String) {interface : String} (h : interface ≠ "") :
    pingCallVia host interface target = ⟨.shell, host, pingCommand target (some interface)⟩ := by
  rw [pingCallVia, pingCommand.eq_3]
  exact h

end Host

/-- A script without broken nodes has a reply to every command. -/
theorem Script.executesAll {script : Script} (h : script.broken = []) (files : FileTree)
    (directory : String) : (script.lab files directory).ExecutesAll := by
  intro call state
  refine ⟨(script.replies.lookup call).getD (Script.unscripted call.command), ?_⟩
  show script.answer call = _
  rw [Script.answer, h]
  rfl

namespace Verdict

open Audit (Converses Exchanged)

/-! ## Rounds -/

/-- Every address is pinged once, by the call for it and in order, and those pass whose ping returns
zero. -/
structure Pings (c : Check) (probe : PingProbe) (call : String → Call) (exchange : Exchange)
    (rs : List Result) : Prop where
  calls_eq : exchange.calls = probe.targets.map call
  names_eq : rs.map (·.name)
    = probe.targets.map fun target => c.name ++ "::" ++ probe.source ++ "->" ++ target
  statuses_eq : rs.map (·.status) = exchange.map fun e => if e.2.rc = 0 then .pass else .fail

/-- No address of a probe passes, because the interface is not there. -/
structure Absent (c : Check) (probe : PingProbe) (interface : String) (rs : List Result) :
    Prop where
  names_eq : rs.map (·.name)
    = probe.targets.map fun target => c.name ++ "::" ++ probe.source ++ "->" ++ target
  fails : ∀ r ∈ rs, r.status = .fail ∧
    r.message = "interface " ++ interface ++ " not present on " ++ probe.source

/-- The commands that are given for a probe of addresses, with their replies, and the results. -/
inductive PingRound (c : Check) (p : PingTargets) (probe : PingProbe) :
    Exchange → List Result → Prop
  /-- Without an interface the addresses are pinged at once. -/
  | direct {exchange : Exchange} {rs : List Result} (h : ∀ i, p.interface = some i → i = "")
      (hpings : Pings c probe (Host.pingCall probe.source) exchange rs) :
      PingRound c p probe exchange rs
  /-- An interface that is not there is told by a listing that succeeds. Nothing is pinged. -/
  | skipped {i : String} {listing : Reply} {rs : List Result} (hi : p.interface = some i)
      (hne : i ≠ "") (hrc : listing.rc = 0) (hmissing : ¬ Host.Shows listing.stdout i)
      (habsent : Absent c probe i rs) :
      PingRound c p probe [(Host.listCall probe.source, listing)] rs
  /-- An interface that is there, or cannot be looked for, does not keep the addresses from being
  pinged. -/
  | listed {i : String} {listing : Reply} {exchange : Exchange} {rs : List Result}
      (hi : p.interface = some i) (hne : i ≠ "")
      (hfound : listing.rc = 0 → Host.Shows listing.stdout i)
      (hpings : Pings c probe (Host.pingCallVia probe.source i) exchange rs) :
      PingRound c p probe ((Host.listCall probe.source, listing) :: exchange) rs

/-- The commands that are given for a probe of a neighbour, with their replies, and the result: it
passes exactly if the address occurs nowhere in the list of neighbours. The ping goes through the
interface unless its name is empty. -/
def NeighborRound (c : Check) (probe : NeighborProbe) (exchange : Exchange) (r : Result) : Prop :=
  ∃ ping lookup : Reply,
    exchange = [(if probe.interface = "" then Host.pingCall probe.source probe.target
        else Host.pingCallVia probe.source probe.interface probe.target, ping),
      (Host.neighborCall probe.source probe.interface, lookup)] ∧
    r.name = c.name ++ "::" ++ probe.source ++ "->" ++ probe.target ∧
    r.status = if probe.target.toList <:+: lookup.stdout.toList then .fail else .pass

/-- **Only the list of neighbours counts.** Neither the reply to the ping nor the return code of the
look-up makes a difference. -/
theorem NeighborRound.status_eq {c : Check} {probe : NeighborProbe}
    {ping ping' lookup lookup' : Call × Reply} {r r' : Result}
    (h : NeighborRound c probe [ping, lookup] r)
    (h' : NeighborRound c probe [ping', lookup'] r') (hsame : lookup.2.stdout = lookup'.2.stdout) :
    r.status = r'.status := by
  obtain ⟨_, _, hexchange, -, hstatus⟩ := h
  obtain ⟨_, _, hexchange', -, hstatus'⟩ := h'
  cases hexchange
  cases hexchange'
  rw [hstatus, hstatus', hsame]

/-! ## Results -/

variable {σ : Type} {c : Check}

theorem outcome_status (c : Check) (name : String) (ok : Bool) (message : String)
    (evidence : Document) :
    (c.outcome name ok message evidence).status = if ok then .pass else .fail := by
  cases ok <;> rfl

theorem pingResult_status (c : Check) (source target : String) (r : Reply) :
    (pingResult c source target r).status = if r.rc = 0 then .pass else .fail := by
  rw [pingResult, outcome_status, Reply.isSuccess]
  simp only [beq_iff_eq]

theorem neighborResult_status (c : Check) (probe : NeighborProbe) (r : Reply) :
    (neighborResult c probe r).status
      = if probe.target.toList <:+: r.stdout.toList then .fail else .pass := by
  rw [neighborResult, outcome_status]
  simp only [Bool.not_eq_true', ← Bool.not_eq_true, Text.contains_iff, ite_not]

theorem lacks_iff {rc : Int} {listing err i : String} :
    lacks ⟨rc, Host.namesOf listing, err⟩ i = true ↔ rc = 0 ∧ ¬ Host.Shows listing i := by
  rw [lacks, Bool.and_eq_true, beq_iff_eq, Bool.not_eq_true', ← Bool.not_eq_true,
    List.contains_iff_mem, Host.mem_namesOf_iff]

theorem absent_absentResult (c : Check) (probe : PingProbe) (i : String) :
    Absent c probe i (probe.targets.map (absentResult c probe.source i)) := by
  refine ⟨?_, List.forall_mem_map.mpr fun target _ => ⟨rfl, rfl⟩⟩
  rw [List.map_map]
  rfl

/-! ## Probes -/

/-- A ping and its result. -/
def IsPing (c : Check) (source : String) (call : String → Call) (target : String)
    (exchange : Exchange) (r : Result) : Prop :=
  ∃ reply, exchange = [(call target, reply)] ∧ r = pingResult c source target reply

/-- Rounds of one ping each are pings. -/
theorem Pings.of_rounds {source : String} {call : String → Call} {targets : List String}
    {rounds : List (Exchange × Result)}
    (h : List.Forall₂ (fun target round => IsPing c source call target round.1 round.2) targets
      rounds) :
    Pings c ⟨source, targets⟩ call (rounds.map Prod.fst).flatten (rounds.map Prod.snd) := by
  induction h with
  | nil => exact ⟨rfl, rfl, rfl⟩
  | cons hround _ ih =>
      obtain ⟨reply, hexchange, hresult⟩ := hround
      rw [List.map_cons, List.flatten_cons, List.map_cons, hexchange, hresult]
      refine ⟨congrArg (_ :: ·) ih.calls_eq, ?_, ?_⟩
      · rw [List.map_cons, ih.names_eq, pingResult, Check.outcome_name]
        rfl
      · rw [List.map_cons, ih.statuses_eq, pingResult_status]
        rfl

/-- Pinging addresses, one after the other. -/
theorem pings_exchange {s : Subject σ} (hlab : s.lab.ExecutesAll) (c : Check) (probe : PingProbe)
    {interface : Option String} {call : String → Call}
    (hcall : ∀ target, call target
      = ⟨.shell, probe.source, Host.pingCommand target interface⟩) :
    Converses s.lab (Pings c probe call) (probe.targets.mapM fun target => do
      let reply ← Audit.ofWork (Host.ping s.lab probe.source target interface)
      pure (pingResult c probe.source target reply)) := by
  have hping : ∀ target, Converses s.lab (IsPing c probe.source call target)
      (do pure (pingResult c probe.source target
        (← Audit.ofWork (Host.ping s.lab probe.source target interface))) : Audit σ Result) := by
    intro target
    have hreply : Converses s.lab (fun exchange reply => exchange = [(call target, reply)])
        (Audit.ofWork (Host.ping s.lab probe.source target interface)) := by
      rw [hcall]
      exact .perform hlab fun _ => rfl
    exact hreply.map fun _ reply h => ⟨reply, h, rfl⟩
  refine (Converses.mapM hping probe.targets).imp ?_
  rintro _ _ ⟨rounds, hrounds, rfl, rfl⟩
  exact .of_rounds hrounds

/-- **One round for a probe of addresses.** -/
theorem pingProbe_exchange {s : Subject σ} (hlab : s.lab.ExecutesAll) (c : Check) (p : PingTargets)
    (probe : PingProbe) :
    Converses s.lab (PingRound c p probe) (pingProbe s c (through p) probe) := by
  rcases hthrough : through p with _ | i
  · -- there is no interface, or its name is empty
    have hnone : ∀ i, p.interface = some i → i = "" := by
      intro i hi
      rw [through, hi, Option.filter_eq_none_iff] at hthrough
      exact not_not.mp fun hne => hthrough i rfl (bne_iff_ne.mpr hne)
    exact (pings_exchange hlab c probe fun _ => rfl).imp fun _ _ h => .direct hnone h
  · obtain ⟨hi, hne⟩ := Option.filter_eq_some_iff.mp hthrough
    have hne : i ≠ "" := bne_iff_ne.mp hne
    have hlist : Converses s.lab
        (fun exchange found => ∃ listing : Reply,
          exchange = [(Host.listCall probe.source, listing)] ∧
          found = ⟨listing.rc, Host.namesOf listing.stdout, listing.stderr⟩)
        (Audit.ofWork (Host.interfaces s.lab probe.source)) := by
      have hreply : Converses s.lab
          (fun exchange listing => exchange = [(Host.listCall probe.source, listing)])
          (Audit.ofWork (s.lab.shell probe.source Host.listCommand)) := .perform hlab fun _ => rfl
      rw [Host.interfaces, Audit.ofWork_bind]
      exact hreply.map fun exchange listing h => ⟨listing, h, rfl⟩
    -- the listing decides whether anything is pinged
    refine hlist.bind ?_
    rintro _ _ ⟨listing, rfl, rfl⟩
    by_cases hmissing : lacks ⟨listing.rc, Host.namesOf listing.stdout, listing.stderr⟩ i = true
    · obtain ⟨hrc, hmissing'⟩ := lacks_iff.mp hmissing
      rw [if_pos hmissing]
      exact .pure (.skipped hi hne hrc hmissing' (absent_absentResult c probe i))
    · have hfound : listing.rc = 0 → Host.Shows listing.stdout i := fun hrc =>
        not_not.mp fun hshows => hmissing (lacks_iff.mpr ⟨hrc, hshows⟩)
      rw [if_neg hmissing]
      exact (pings_exchange hlab c probe fun target => Host.pingCallVia_eq _ target hne).imp
        fun _ _ h => .listed hi hne hfound h

/-- **One round for a probe of a neighbour.** -/
theorem neighborProbe_exchange {s : Subject σ} (hlab : s.lab.ExecutesAll) (c : Check)
    (probe : NeighborProbe) :
    Converses s.lab (NeighborRound c probe) (neighborProbe s c probe) := by
  have hping : Converses s.lab
      (fun exchange reply => exchange
        = [(if probe.interface = "" then Host.pingCall probe.source probe.target
            else Host.pingCallVia probe.source probe.interface probe.target, reply)])
      (Audit.ofWork (Host.ping s.lab probe.source probe.target (some probe.interface))) := by
    have hcall : (if probe.interface = "" then Host.pingCall probe.source probe.target
          else Host.pingCallVia probe.source probe.interface probe.target)
        = ⟨.shell, probe.source, Host.pingCommand probe.target (some probe.interface)⟩ := by
      split
      · next hempty =>
          rw [hempty]
          rfl
      · next hne => exact Host.pingCallVia_eq _ _ hne
    rw [hcall]
    exact .perform hlab fun _ => rfl
  have hlookup : Converses s.lab
      (fun exchange reply => exchange
        = [(Host.neighborCall probe.source probe.interface, reply)])
      (Audit.ofWork (Host.neighbors s.lab probe.source probe.interface)) :=
    .perform hlab fun _ => rfl
  -- the reply to the ping is not looked at
  refine hping.bind ?_
  rintro _ ping rfl
  refine hlookup.map ?_
  rintro _ lookup rfl
  exact ⟨ping, lookup, rfl, Check.outcome_name .., neighborResult_status c probe lookup⟩

/-! ## Checks -/

/-- A check that goes on from its parameters with a conversation either crashes at once, because
they do not read, or has this conversation. -/
theorem runCheck_of_converses {s : Subject σ} {π : Type} {reader : Reader π}
    {rest : π → Audit σ (List Result)} {post : π → Exchange → List Result → Prop}
    (hcheck : ofCheck s c = Audit.params c reader >>= rest)
    (hrest : ∀ p, Converses s.lab (post p) (rest p)) (st : Audit.State σ) :
    (∃ f, c.readParams reader = .error f ∧
      runCheck s c st = ([Result.crashed c (Fault.json f).message], st)) ∨
    ∃ p exchange, c.readParams reader = .ok p ∧
      Exchanged s.lab st (runCheck s c st).2 exchange ∧ post p exchange (runCheck s c st).1 := by
  rw [runCheck_eq, hcheck]
  rcases hp : c.readParams reader with f | p
  · have hparams : (Audit.params c reader : Audit σ π) st = (.error (.json f), st) := by
      rw [Audit.params, ofReading_apply, hp]
      rfl
    rw [Audit.bind_error hparams]
    exact .inl ⟨f, rfl, rfl⟩
  · rw [params_bind hp]
    obtain ⟨exchange, rs, st', hrun, hexchanged, hpost⟩ := hrest p st
    rw [hrun]
    exact .inr ⟨p, exchange, rfl, hexchanged, hpost⟩

/-- **What is asked of hosts, and what is made of it.**

Take a check of reachability or of neighbours and let it run in any state of a lab that executes all
commands. If its parameters do not read, it fails at once and gives no command. Otherwise the
commands that it gives, with the replies of the lab to them, fall into rounds, one for every probe
and in the order of the probes, and its results are those of the rounds. Nothing else is done.

In a round of a check of reachability the interfaces of the source are listed if an interface is
named. If the listing succeeds and does not show it, that is all, and every address fails because of
it. Otherwise every address is pinged once, in order, and passes exactly if the ping returns zero.
In a round of a check of neighbours the address is pinged once and the neighbours are looked up
once; it passes exactly if the output of the look-up does not contain it. So two rounds for one
probe end in the same way if the look-ups have the same output, whatever came of the pings and
whatever the look-ups returned. -/
theorem probes_exchange (s : Subject σ) (c : Check) (st : Audit.State σ)
    (hlab : s.lab.ExecutesAll) :
    (c.kind = .pingTargets →
      (∃ f, c.readParams PingTargets.reader = .error f ∧
        runCheck s c st = ([Result.crashed c (Fault.json f).message], st)) ∨
      ∃ p, ∃ rounds : List (Exchange × List Result), c.readParams PingTargets.reader = .ok p ∧
        List.Forall₂ (fun probe round => PingRound c p probe round.1 round.2) p.probes rounds ∧
        Exchanged s.lab st (runCheck s c st).2 (rounds.map Prod.fst).flatten ∧
        (runCheck s c st).1 = (rounds.map Prod.snd).flatten) ∧
    (c.kind = .neighborAbsent →
      (∃ f, c.readParams NeighborAbsent.reader = .error f ∧
        runCheck s c st = ([Result.crashed c (Fault.json f).message], st)) ∨
      ∃ p, ∃ rounds : List (Exchange × Result), c.readParams NeighborAbsent.reader = .ok p ∧
        List.Forall₂ (fun probe round => NeighborRound c probe round.1 round.2) p.probes rounds ∧
        Exchanged s.lab st (runCheck s c st).2 (rounds.map Prod.fst).flatten ∧
        (runCheck s c st).1 = rounds.map Prod.snd) ∧
    (∀ (probe : NeighborProbe) (ping ping' lookup lookup' : Call × Reply) (r r' : Result),
      NeighborRound c probe [ping, lookup] r → NeighborRound c probe [ping', lookup'] r' →
      lookup.2.stdout = lookup'.2.stdout → r.status = r'.status) := by
  refine ⟨fun hkind => ?_, fun hkind => ?_, fun _ _ _ _ _ _ _ h h' => h.status_eq h'⟩
  · have hcheck : ofCheck s c = pingTargets s c := by rw [ofCheck, hkind]
    have hrounds : ∀ p : PingTargets, Converses s.lab
        (fun exchange rs => ∃ rounds : List (Exchange × List Result),
          List.Forall₂ (fun probe round => PingRound c p probe round.1 round.2) p.probes rounds ∧
          exchange = (rounds.map Prod.fst).flatten ∧ rs = (rounds.map Prod.snd).flatten)
        (do
          let results ← p.probes.mapM (pingProbe s c (through p))
          pure results.flatten) := by
      refine fun p => (Converses.mapM (pingProbe_exchange hlab c p) p.probes).map ?_
      rintro exchange _ ⟨rounds, hrounds, hexchange, rfl⟩
      exact ⟨rounds, hrounds, hexchange, rfl⟩
    refine (runCheck_of_converses hcheck hrounds st).imp_right ?_
    rintro ⟨p, _, hp, hexchanged, rounds, hrounds, rfl, hrs⟩
    exact ⟨p, rounds, hp, hrounds, hexchanged, hrs⟩
  · have hcheck : ofCheck s c = neighborAbsent s c := by rw [ofCheck, hkind]
    have hrounds := fun p : NeighborAbsent =>
      Converses.mapM (neighborProbe_exchange hlab c) p.probes
    refine (runCheck_of_converses hcheck hrounds st).imp_right ?_
    rintro ⟨p, _, hp, hexchanged, rounds, hrounds, rfl, hrs⟩
    exact ⟨p, rounds, hp, hrounds, hexchanged, hrs⟩

/-- Two hosts. The one has no other interface than the loopback, the other one cannot list its
interfaces and reaches one address. -/
def hostScript : Script :=
  ⟨["host1", "host2"], [("host1", "linux"), ("host2", "linux")],
    [(Host.listCall "host1", ⟨0, "lo\n", ""⟩),
      (Host.pingCallVia "host2" "eth1" "10.0.0.1", ⟨0, "", ""⟩)], []⟩

def hostFabric : Subject Unit :=
  ⟨⟨"lab", .standard, .empty, [], [], .object []⟩, hostScript.lab (FileTree.empty []) "/lab",
    .disabled .standard⟩

/-- A check that both hosts reach addresses through an interface. -/
def reachability : Check :=
  ⟨"reach", .dataplane, .pingTargets, .error,
    [("interface", .text "eth1"),
      ("probes", .list [
        .object [("source", .text "host1"), ("targets", .list [.text "10.0.0.1"])],
        .object [("source", .text "host2"),
          ("targets", .list [.text "10.0.0.1", .text "10.0.0.2"])]])]⟩

/-- A check that a host has not learned an address. -/
def isolation : Check :=
  ⟨"isolation", .dataplane, .neighborAbsent, .error,
    [("probes", .list [.object [("interface", .text "eth1"), ("source", .text "host2"),
      ("target_ip", .text "10.0.0.9")]])]⟩

/-- The first host is only asked for its interfaces, the second one for its interfaces, in vain, and
for both addresses; and its neighbours are looked up, in vain, after another ping. -/
theorem probes_exchange_hostFabric :
    (∃ p, ∃ rounds : List (Exchange × List Result),
      List.Forall₂ (fun probe round => PingRound reachability p probe round.1 round.2) p.probes
        rounds ∧
      Exchange.calls (rounds.map Prod.fst).flatten = [Host.listCall "host1",
        Host.listCall "host2", Host.pingCallVia "host2" "eth1" "10.0.0.1",
        Host.pingCallVia "host2" "eth1" "10.0.0.2"] ∧
      (rounds.map Prod.snd).flatten.map (·.status) = [.fail, .pass, .fail]) ∧
    ∃ p : NeighborAbsent, ∃ rounds : List (Exchange × Result),
      List.Forall₂ (fun probe round => NeighborRound isolation probe round.1 round.2) p.probes
        rounds ∧
      Exchange.calls (rounds.map Prod.fst).flatten = [
        Host.pingCallVia "host2" "eth1" "10.0.0.9", Host.neighborCall "host2" "eth1"] ∧
      (rounds.map Prod.snd).map (·.status) = [.pass] := by
  have hlab : hostFabric.lab.ExecutesAll := Script.executesAll rfl _ _
  constructor
  · have hcalls : (runCheck hostFabric reachability (Audit.fresh ⟨(), []⟩)).2.world.calls
        = [Host.listCall "host1", Host.listCall "host2",
          Host.pingCallVia "host2" "eth1" "10.0.0.1",
          Host.pingCallVia "host2" "eth1" "10.0.0.2"] := by decide +kernel
    have hstatuses : (runCheck hostFabric reachability (Audit.fresh ⟨(), []⟩)).1.map (·.status)
        = [.fail, .pass, .fail] := by decide +kernel
    obtain ⟨hreach, -⟩ := probes_exchange hostFabric reachability (Audit.fresh ⟨(), []⟩) hlab
    rcases hreach rfl with ⟨f, hf, -⟩ | ⟨p, rounds, -, hrounds, hexchanged, hrs⟩
    · cases hf
    · rw [hrs] at hstatuses
      exact ⟨p, rounds, hrounds, hexchanged.calls_eq.symm.trans hcalls, hstatuses⟩
  · have hcalls : (runCheck hostFabric isolation (Audit.fresh ⟨(), []⟩)).2.world.calls
        = [Host.pingCallVia "host2" "eth1" "10.0.0.9", Host.neighborCall "host2" "eth1"] := by
      decide +kernel
    have hstatuses : (runCheck hostFabric isolation (Audit.fresh ⟨(), []⟩)).1.map (·.status)
        = [.pass] := by decide +kernel
    obtain ⟨-, hisolated, -⟩ := probes_exchange hostFabric isolation (Audit.fresh ⟨(), []⟩) hlab
    rcases hisolated rfl with ⟨f, hf, -⟩ | ⟨p, rounds, -, hrounds, hexchanged, hrs⟩
    · cases hf
    · rw [hrs] at hstatuses
      exact ⟨p, rounds, hrounds, hexchanged.calls_eq.symm.trans hcalls, hstatuses⟩

end Verdict

end FabricAudit
