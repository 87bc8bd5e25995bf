import FabricAudit.Proofs.Document.Path
import FabricAudit.Proofs.Document.Redraft
import FabricAudit.Proofs.Verdict.Switches

set_option autoImplicit false

/-! # Verdicts on values that must differ

A check of values of the intent gathers the values at its paths and counts how many different texts
there are among them, in their plain form. That these are as many as there are paths is the same as
that every path leads to a value and that no two values along the list have the same plain form
(`Distinct`). This is a matter of pairs, so the order of the paths does not matter, a path that is
named twice is too much, and a number is the same as the text that looks like it
(`distinct_judges`).
-/

namespace FabricAudit

/-- A dotted path leads to a value of a document, which is not null. -/
def Document.Leads (raw : Document) (path : String) (d : Document) : Prop :=
  raw.walk (Text.splitAt '.' path) = some d ∧ d.isNull = false

namespace Document

theorem resolve_eq_some_iff {raw d : Document} {path : String} :
    raw.resolve path = some d ↔ raw.Leads path d := by
  rw [resolve_eq, Option.filter_eq_some_iff, Leads, Bool.not_eq_true']

theorem resolve_eq_none_iff {raw : Document} {path : String} :
    raw.resolve path = none ↔ ∀ d, ¬ raw.Leads path d := by
  simp only [Option.eq_none_iff_forall_ne_some, Ne, resolve_eq_some_iff]

end Document

/-- Every path leads to a value, and no two values along the list have the same plain form. -/
structure Distinct (raw : Document) (paths : List String) : Prop where
  leads : ∀ path ∈ paths, ∃ d, raw.Leads path d
  differ : paths.Pairwise fun path path' =>
    ∀ d, raw.Leads path d → ∀ d', raw.Leads path' d' → d.plain ≠ d'.plain

namespace Distinct

variable {raw : Document} {paths paths' : List String}

/-- The order of the paths does not matter. -/
theorem perm (h : Distinct raw paths) (hperm : paths.Perm paths') : Distinct raw paths' := by
  refine ⟨fun path hpath => h.leads path (hperm.mem_iff.mpr hpath), ?_⟩
  refine h.differ.perm hperm fun hdiffer d hd d' hd' => (hdiffer d' hd' d hd).symm

/-- No path is named twice, as it leads to the same value both times. -/
theorem nodup (h : Distinct raw paths) : paths.Nodup := by
  refine h.differ.imp_of_mem fun {path path'} hpath _ hdiffer heq => ?_
  obtain ⟨d, hd⟩ := h.leads path hpath
  exact hdiffer d hd d (heq ▸ hd) rfl

/-- Two paths of the list do not lead to values with the same plain form. -/
theorem plain_ne {path path' : String} {d d' : Document} (h : Distinct raw paths)
    (hpaths : [path, path'].Subperm paths) (hd : raw.Leads path d) (hd' : raw.Leads path' d') :
    d.plain ≠ d'.plain := by
  obtain ⟨paths', hperm, hsub⟩ := List.subperm_iff.mp hpaths
  exact List.pairwise_pair.mp ((h.perm hperm.symm).differ.sublist hsub) d hd d' hd'

end Distinct

/-- What is to be said of the values at paths. -/
structure DistinctVerdict (raw : Document) (paths : List String) (r : Result) : Prop where
  passes_iff : r.status = .pass ↔ Distinct raw paths
  fails_iff : r.status = .fail ↔ ¬ Distinct raw paths
  repeated : ¬ paths.Nodup → r.status = .fail
  clash : ∀ path path' d d', [path, path'].Subperm paths → raw.Leads path d →
    raw.Leads path' d' → d.plain = d'.plain → r.status = .fail
  values : ∃ values, Keyed.get? r.evidence "values" = some values ∧ ∀ path,
    (path ∉ paths → values.get? path = none) ∧
    (path ∈ paths → (∀ d, raw.Leads path d → values.get? path = some d) ∧
      (values.get? path = some .null ↔ ∀ d, ¬ raw.Leads path d))

namespace Verdict

/-! ## Results -/

/-- No path leads nowhere. -/
theorem unresolved_isEmpty_iff {raw : Document} {paths : List String} :
    (unresolved raw paths).isEmpty = true ↔ ∀ path ∈ paths, ∃ d, raw.Leads path d := by
  rw [unresolved, List.isEmpty_iff, List.filter_eq_nil_iff]
  refine forall₂_congr fun path _ => ?_
  rw [Option.isNone_iff_eq_none, Option.eq_none_iff_forall_ne_some]
  simp only [Ne, Document.resolve_eq_some_iff, not_forall, not_not]

/-- The values are as many as the paths, if every path leads to one. -/
theorem length_resolvedTexts {raw : Document} {paths : List String}
    (h : ∀ path ∈ paths, ∃ d, raw.Leads path d) :
    (resolvedTexts raw paths).length = paths.length := by
  rw [resolvedTexts, List.length_map, List.filterMap_length_eq_length]
  intro path hpath
  obtain ⟨d, hd⟩ := h path hpath
  rw [Document.resolve_eq_some_iff.mpr hd, Option.isSome_some]

/-- The texts of the values are different exactly if the values differ in pairs. -/
theorem nodup_resolvedTexts_iff {raw : Document} {paths : List String} :
    (resolvedTexts raw paths).Nodup ↔ paths.Pairwise fun path path' =>
      ∀ d, raw.Leads path d → ∀ d', raw.Leads path' d' → d.plain ≠ d'.plain := by
  rw [resolvedTexts, List.Nodup, List.pairwise_map, List.pairwise_filterMap]
  simp only [Document.resolve_eq_some_iff]

/-- **Counting the different texts is comparing the values in pairs.** -/
theorem distinctResult_status_eq_pass (c : Check) (raw : Document) (paths : List String) :
    (distinctResult c raw paths).status = .pass ↔ Distinct raw paths := by
  rw [distinctResult, Check.outcome_status_eq_pass, Bool.and_eq_true, unresolved_isEmpty_iff,
    beq_iff_eq, distinctTexts]
  constructor
  · rintro ⟨hleads, hlength⟩
    rw [← length_resolvedTexts hleads, Text.length_sortedSet_eq_iff] at hlength
    exact ⟨hleads, nodup_resolvedTexts_iff.mp hlength⟩
  · rintro ⟨hleads, hdiffer⟩
    refine ⟨hleads, ?_⟩
    rw [← length_resolvedTexts hleads, Text.length_sortedSet_eq_iff]
    exact nodup_resolvedTexts_iff.mpr hdiffer

/-- The evidence on values has every path, with the value that it leads to, or null. -/
theorem get?_valuesAt (raw : Document) (paths : List String) (path : String) :
    (valuesAt raw paths).get? path
      = if path ∈ paths then some ((raw.resolve path).getD .null) else none := by
  rw [valuesAt, Document.ofPairs, Document.get?]
  split_ifs with hpath
  · refine Keyed.get?_ofList_of_mem (List.mem_map_of_mem hpath) fun d hd => ?_
    obtain ⟨path', -, heq⟩ := List.mem_map.mp hd
    cases heq
    rfl
  · refine Keyed.get?_ofList_of_notMem fun d hd => ?_
    obtain ⟨path', hpath', heq⟩ := List.mem_map.mp hd
    cases heq
    exact hpath hpath'

/-- Null stands for the paths that lead nowhere only. -/
theorem getD_resolve_eq_null_iff {raw : Document} {path : String} :
    (raw.resolve path).getD .null = .null ↔ raw.resolve path = none := by
  rcases h : raw.resolve path with _ | d
  · exact iff_of_true rfl rfl
  · have hd := (Document.resolve_eq_some_iff.mp h).2
    refine iff_of_false (fun hnull => ?_) nofun
    rw [Option.getD_some] at hnull
    rw [hnull] at hd
    cases hd

/-- What is said of the values at paths is what is to be said of them. -/
theorem isVerdict_distinctResult (c : Check) (raw : Document) (paths : List String) :
    DistinctVerdict raw paths (distinctResult c raw paths) := by
  have hpasses := distinctResult_status_eq_pass c raw paths
  have hfails : (distinctResult c raw paths).status = .fail ↔ ¬ Distinct raw paths := by
    rw [← hpasses, distinctResult, Check.outcome_status_eq_fail, Check.outcome_status_eq_pass,
      Bool.not_eq_true]
  refine ⟨hpasses, hfails, fun hrepeated => ?_, fun path path' d d' hpaths hd hd' hsame => ?_,
    valuesAt raw paths, Check.get?_outcome_evidence _ _ _ _ (by simp) (by simp), fun path => ?_⟩
  · exact hfails.mpr fun h => hrepeated h.nodup
  · exact hfails.mpr fun h => h.plain_ne hpaths hd hd' hsame
  · rw [get?_valuesAt]
    refine ⟨fun hpath => if_neg hpath, fun hpath => ?_⟩
    rw [if_pos hpath]
    refine ⟨fun d hd => ?_, ?_⟩
    · rw [Document.resolve_eq_some_iff.mpr hd, Option.getD_some]
    · rw [Option.some_inj, getD_resolve_eq_null_iff, Document.resolve_eq_none_iff]

/-! ## Runs -/

/-- Any list of texts is read as it is where any values will do. -/
theorem plainList_texts (paths : List String) :
    Reader.plainList.document (.texts paths) = .ok paths := by
  have hlist : (Reader.list Reader.any).document (.texts paths) = .ok (paths.map .text) := by
    rw [Document.texts, ← List.map_id (paths.map Document.text)]
    refine (Reader.document_list fun d hd => ?_).trans (by rw [List.map_id])
    obtain ⟨path, -, rfl⟩ := List.mem_map.mp hd
    rfl
  have hplain : (paths.map Document.text).map Document.plain = paths := by
    rw [List.map_map]
    exact List.map_id _
  exact Except.map_eq_ok_iff.mpr ⟨_, hlist, hplain⟩

/-- So the parameters of a check can name any list of paths. -/
theorem readParams_texts {c : Check} {paths : List String}
    (h : c.params = [("paths", .texts paths)]) :
    c.readParams IntentDistinct.reader = .ok ⟨paths⟩ := by
  have hpaths := plainList_texts paths
  have hmembers : c.params = Keyed.ofList [("paths", .texts paths)] := h
  rw [Check.readParams, hmembers]
  refine (Reader.document_record fun p hp => ?_).trans ?_
  · obtain rfl := List.mem_singleton.mp hp
    exact ⟨IntentDistinct.pathsField.erase, rfl, rfl, Reader.check_erase hpaths⟩
  · rw [Given.take_ofMembers rfl]
    exact (congrArg (· >>= _) hpaths).trans rfl

/-- A check of values gives its result at once. -/
theorem runCheck_distinct {σ : Type} {s : Subject σ} {c : Check} {paths : List String}
    (hkind : c.kind = .intentDistinct) (hp : c.readParams IntentDistinct.reader = .ok ⟨paths⟩)
    (st : Audit.State σ) : runCheck s c st = ([distinctResult c s.intent.raw paths], st) := by
  have hcheck : ofCheck s c = intentDistinct s c := by rw [ofCheck, hkind]
  rw [runCheck_eq, hcheck, intentDistinct, params_bind hp]
  rfl

/-- **What is said of values that must differ.**

Take a check of values of the intent whose parameters name any list of paths, and let it run in any
state. It gives one result, under its name, and does nothing else. The result passes exactly if
every path leads to a value that is not null and no two of these values, taken along the list, have
the same plain form. So it fails if a path is named twice, or if a number at one of the paths looks
like the text at another one. A check that names the same paths in another order has the same
status. The evidence has every path with the value that it leads to, and null for those that lead
nowhere, and only for these. -/
theorem distinct_judges {σ : Type} (s : Subject σ) (c : Check) (st : Audit.State σ)
    {paths : List String} (hkind : c.kind = .intentDistinct)
    (hp : c.readParams IntentDistinct.reader = .ok ⟨paths⟩) :
    ∃ r, runCheck s c st = ([r], st) ∧ r.name = c.name ∧
      DistinctVerdict s.intent.raw paths r ∧
      ∀ (c' : Check) (st' : Audit.State σ) (paths' : List String), c'.kind = .intentDistinct →
        c'.readParams IntentDistinct.reader = .ok ⟨paths'⟩ → paths'.Perm paths →
        (runCheck s c' st').1.map (·.status) = [r.status] := by
  refine ⟨_, runCheck_distinct hkind hp st, Check.outcome_name .., isVerdict_distinctResult .., ?_⟩
  intro c' st' paths' hkind' hp' hperm
  rw [runCheck_distinct hkind' hp', List.map_singleton, List.singleton_inj]
  have hr := isVerdict_distinctResult c s.intent.raw paths
  have hr' := isVerdict_distinctResult c' s.intent.raw paths'
  -- the one passes if the other one does, and it fails otherwise
  by_cases h : Distinct s.intent.raw paths
  · rw [hr.passes_iff.mpr h, hr'.passes_iff.mpr (h.perm hperm.symm)]
  · rw [hr.fails_iff.mpr h, hr'.fails_iff.mpr fun h' => h (h'.perm hperm)]

/-- An intent with a number, the text that looks like it, and another number. -/
def vniFabric : Subject Unit :=
  { leafFabric with
    intent := ⟨"lab", .standard, .empty, [], [],
      .object [("services", .object [("a", .int 10), ("b", .text "10"), ("c", .int 11)])]⟩ }

def distinctVnis (paths : List String) : Check :=
  ⟨"vnis", .intent, .intentDistinct, .error, [("paths", .texts paths)]⟩

/-- The two numbers differ. The one that looks like the text does not differ from it. -/
theorem distinct_judges_vniFabric :
    (∃ r, runCheck vniFabric (distinctVnis ["services.a", "services.c"]) (Audit.fresh ⟨(), []⟩)
        = ([r], Audit.fresh ⟨(), []⟩) ∧ r.status = .pass) ∧
      ∃ r, runCheck vniFabric (distinctVnis ["services.a", "services.b"]) (Audit.fresh ⟨(), []⟩)
        = ([r], Audit.fresh ⟨(), []⟩) ∧ r.status = .fail := by
  have ha : vniFabric.intent.raw.Leads "services.a" (.int 10) := ⟨rfl, rfl⟩
  have hb : vniFabric.intent.raw.Leads "services.b" (.text "10") := ⟨rfl, rfl⟩
  have hc : vniFabric.intent.raw.Leads "services.c" (.int 11) := ⟨rfl, rfl⟩
  constructor
  · obtain ⟨r, hrun, -, hr, -⟩ := distinct_judges vniFabric
      (distinctVnis ["services.a", "services.c"]) (Audit.fresh ⟨(), []⟩) rfl (readParams_texts rfl)
    refine ⟨r, hrun, hr.passes_iff.mpr ⟨?_, ?_⟩⟩
    · simp only [List.forall_mem_cons]
      exact ⟨⟨_, ha⟩, ⟨_, hc⟩, nofun⟩
    · refine List.pairwise_pair.mpr fun d hd d' hd' => ?_
      obtain rfl := Option.some.inj (ha.1.symm.trans hd.1)
      obtain rfl := Option.some.inj (hc.1.symm.trans hd'.1)
      decide +kernel
  · obtain ⟨r, hrun, -, hr, -⟩ := distinct_judges vniFabric
      (distinctVnis ["services.a", "services.b"]) (Audit.fresh ⟨(), []⟩) rfl (readParams_texts rfl)
    exact ⟨r, hrun, hr.clash _ _ _ _ (.refl _) ha hb (by decide +kernel)⟩

end Verdict

end FabricAudit
