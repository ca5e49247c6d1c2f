import Mathlib.Data.List.Nodup
import VectorTable.Proofs.Setting.EnvFile
import VectorTable.Setting.General
import VectorTable.Setting.Store

/-!
# Fields of settings

Each field of a group of settings is judged by itself. Its value, or what is wrong with it, comes from the first source that names it, and nothing that another source or another field says makes a difference. Settings are made if no field is faulty; otherwise all faulty fields are reported, in the order in which the fields are declared.
-/

namespace VectorTable.Setting

open Text

/-! ### Judging one field -/

/-- A field together with its place in the settings. -/
structure Slot (ρ : Type) where
  {α : Type}
  field : Field α
  value : ρ → α

namespace Slot

variable {ρ : Type} (slot : Slot ρ)

def name : String := slot.field.name

/-- The value that a rule finds in what a source gives, or what is wrong with it. -/
def judge (v : Value) : Except FieldFault slot.α :=
  (slot.field.rule v).mapError fun complaint => ⟨slot.name, complaint⟩

/-- What a group of settings finds of a field in its sources. -/
def read (group : Group) (sources : Sources) : Except FieldFault slot.α :=
  slot.field.read group sources

def IsFaulty (group : Group) (sources : Sources) : Prop :=
  ∃ fault, slot.read group sources = .error fault

theorem read_eq (group : Group) (sources : Sources) : slot.read group sources =
    (sources.find? group slot.name).elim (.ok slot.field.default) slot.judge := by
  rw [read, Field.read, name]
  cases sources.find? group slot.field.name <;> rfl

end Slot

theorem mem_faultOf_iff {α : Type} {result : Except FieldFault α} {fault : FieldFault} :
    fault ∈ faultOf result ↔ result = .error fault := by
  cases result <;> simp [faultOf, eq_comm]

theorem faultOf_eq_nil_iff {α : Type} {result : Except FieldFault α} :
    faultOf result = [] ↔ ∃ a, result = .ok a := by
  cases result <;> simp [faultOf]

/-- The faults of all faulty fields, in the order of the fields. -/
def faultsOf {ρ : Type} (slots : List (Slot ρ)) (group : Group) (sources : Sources) :
    List FieldFault :=
  slots.flatMap fun slot => faultOf (slot.read group sources)

theorem faultsOf_eq_nil_iff {ρ : Type} {slots : List (Slot ρ)} {group : Group}
    {sources : Sources} :
    faultsOf slots group sources = [] ↔ ∀ slot ∈ slots, ∃ a, slot.read group sources = .ok a := by
  simp only [faultsOf, List.flatMap_eq_nil_iff, faultOf_eq_nil_iff]

/-! ### Judging all fields -/

def General.slots : List (Slot General) :=
  [⟨deploymentField, deployment⟩, ⟨logThresholdField, logThreshold⟩, ⟨databaseUrlField, databaseUrl⟩,
    ⟨poolMinSizeField, poolMinSize⟩, ⟨poolMaxSizeField, poolMaxSize⟩,
    ⟨metricsPortField, metricsPort⟩, ⟨tracingEnabledField, tracingEnabled⟩,
    ⟨otlpEndpointField, otlpEndpoint⟩, ⟨serviceNameField, serviceName⟩]

def Store.slots : List (Slot Store) :=
  [⟨defaultLimitField, defaultLimit⟩, ⟨commandTimeoutField, commandTimeout⟩,
    ⟨batchSizeField, batchSize⟩]

/-- What a group of settings makes of its sources: settings that have the value of every field, or all faults. -/
inductive Settles {ρ : Type} (slots : List (Slot ρ)) (group : Group) (unknown : List FieldFault)
    (sources : Sources) : Except (List FieldFault) ρ → Prop
  | made (settings : ρ) (hunknown : unknown = [])
      (hvalues : ∀ slot ∈ slots, slot.read group sources = .ok (slot.value settings)) :
      Settles slots group unknown sources (.ok settings)
  | refused (hsome : faultsOf slots group sources ++ unknown ≠ []) :
      Settles slots group unknown sources (.error (faultsOf slots group sources ++ unknown))

theorem General.settles (sources : Sources) :
    Settles slots group [] sources (read sources) := by
  rw [read]
  split
  case h_1 h1 h2 h3 h4 h5 h6 h7 h8 h9 =>
    refine .made _ rfl ?_
    simp [slots, Slot.read, *]
  case h_2 hnot =>
    have hsome : faultsOf slots group sources ++ [] ≠ [] := by
      rw [List.append_nil, ne_eq, faultsOf_eq_nil_iff]
      intro hall
      simp only [slots, List.forall_mem_cons, Slot.read] at hall
      obtain ⟨⟨_, h1⟩, ⟨_, h2⟩, ⟨_, h3⟩, ⟨_, h4⟩, ⟨_, h5⟩, ⟨_, h6⟩, ⟨_, h7⟩, ⟨_, h8⟩, ⟨_, h9⟩, -⟩ :=
        hall
      exact hnot _ _ _ _ _ _ _ _ _ h1 h2 h3 h4 h5 h6 h7 h8 h9
    have hfaults := Settles.refused hsome
    simpa [faultsOf, slots, Slot.read] using hfaults

theorem Store.settles (sources : Sources) :
    Settles slots group (unknownArguments sources) sources (read sources) := by
  rw [read]
  split
  case h_1 h1 h2 h3 h4 =>
    refine .made _ h4 ?_
    simp [slots, Slot.read, *]
  case h_2 hnot =>
    have hsome : faultsOf slots group sources ++ unknownArguments sources ≠ [] := by
      rw [ne_eq, List.append_eq_nil_iff, faultsOf_eq_nil_iff]
      rintro ⟨hall, hnone⟩
      simp only [slots, List.forall_mem_cons, Slot.read] at hall
      obtain ⟨⟨_, h1⟩, ⟨_, h2⟩, ⟨_, h3⟩, -⟩ := hall
      exact hnot _ _ _ h1 h2 h3 hnone
    have hfaults := Settles.refused hsome
    simpa [faultsOf, slots, Slot.read] using hfaults

/-! ### Sources as they are given -/

/-- What a caller, the environment and the lines of a file give for settings. -/
structure Given where
  arguments : List (String × Value)
  environment : List (String × String)
  lines : List String

namespace Given

variable {group : Group} {name : String} {g g₁ g₂ : Given}

def sources (g : Given) : Sources := ⟨g.arguments, g.environment, readEnvFile g.environment g.lines⟩

/-- What the first source that names a field gives it, if one does: an argument, the last entry of the environment, or the lines of the file that are about it, if the group consults a file. -/
inductive Gives (group : Group) (name : String) (g : Given) : Option Value → Prop
  | argument (value : Value) (hargument : lookupName g.arguments name = some value) :
      Gives group name g (some value)
  | environment (hargument : lookupName g.arguments name = none)
      (before : List (String × String)) (entry : String × String)
      (hentries : g.environment.filter (hasName (group.nameOf name)) = before ++ [entry]) :
      Gives group name g (some (.text entry.2))
  | file (hreads : group.readsFile = true) (hargument : lookupName g.arguments name = none)
      (hentries : g.environment.filter (hasName (group.nameOf name)) = [])
      (hplain : ArePlainFor (group.nameOf name) g.lines) :
      Gives group name g ((valueOfLines? (group.nameOf name) g.lines).map .text)
  | nothing (hreads : group.readsFile = false) (hargument : lookupName g.arguments name = none)
      (hentries : g.environment.filter (hasName (group.nameOf name)) = []) :
      Gives group name g none

/-- The first source that names a field is the same kind of source twice, and says the same of it. Nothing is asked of what comes after it, nor of what names other fields, nor of a file that is not consulted. -/
inductive AgreeOn (group : Group) (name : String) (g₁ g₂ : Given) : Prop
  | argument (value : Value) (h₁ : lookupName g₁.arguments name = some value)
      (h₂ : lookupName g₂.arguments name = some value)
  | environment (h₁ : lookupName g₁.arguments name = none)
      (h₂ : lookupName g₂.arguments name = none)
      (hsome : g₁.environment.filter (hasName (group.nameOf name)) ≠ [])
      (hsame : g₁.environment.filter (hasName (group.nameOf name)) =
        g₂.environment.filter (hasName (group.nameOf name)))
  | file (hreads : group.readsFile = true)
      (h₁ : lookupName g₁.arguments name = none) (h₂ : lookupName g₂.arguments name = none)
      (hnone₁ : g₁.environment.filter (hasName (group.nameOf name)) = [])
      (hnone₂ : g₂.environment.filter (hasName (group.nameOf name)) = [])
      (hplain₁ : ArePlainFor (group.nameOf name) g₁.lines)
      (hplain₂ : ArePlainFor (group.nameOf name) g₂.lines)
      (hsame : g₁.lines.filter (isAbout (group.nameOf name)) =
        g₂.lines.filter (isAbout (group.nameOf name)))
  | nothing (hreads : group.readsFile = false)
      (h₁ : lookupName g₁.arguments name = none) (h₂ : lookupName g₂.arguments name = none)
      (hnone₁ : g₁.environment.filter (hasName (group.nameOf name)) = [])
      (hnone₂ : g₂.environment.filter (hasName (group.nameOf name)) = [])

theorem lookupFolded_of_filter_eq {entries before : List (String × String)}
    {entry : String × String} (h : entries.filter (hasName name) = before ++ [entry]) :
    lookupFolded entries name = some entry.2 := by
  have hentry : hasName name entry = true :=
    (List.mem_filter.mp (h ▸ List.mem_append_right before List.mem_cons_self)).2
  rw [← lookupFolded_filter, h, lookupFolded, List.reverse_append]
  exact congrArg (Option.map Prod.snd) (List.find?_cons_of_pos hentry)

theorem lookupFolded_of_filter_eq_nil {entries : List (String × String)}
    (h : entries.filter (hasName name) = []) : lookupFolded entries name = none := by
  rw [← lookupFolded_filter, h]
  rfl

theorem Gives.find?_eq {value : Option Value} (h : Gives group name g value) :
    g.sources.find? group name = value := by
  cases h with
  | argument value hargument => simp only [Sources.find?, sources, hargument]
  | environment hargument before entry hentries =>
    simp only [Sources.find?, sources, hargument, lookupFolded_of_filter_eq hentries]
  | file hreads hargument hentries hplain =>
    simp only [Sources.find?, sources, hargument, lookupFolded_of_filter_eq_nil hentries,
      lookupFolded_readEnvFile hplain, hreads, if_true]
  | nothing hreads hargument hentries =>
    simp [Sources.find?, sources, hargument, lookupFolded_of_filter_eq_nil hentries, hreads]

theorem AgreeOn.exists_gives (h : AgreeOn group name g₁ g₂) :
    ∃ value, Gives group name g₁ value ∧ Gives group name g₂ value := by
  cases h with
  | argument value h₁ h₂ => exact ⟨_, .argument value h₁, .argument value h₂⟩
  | environment h₁ h₂ hsome hsame =>
    have hentries := (List.dropLast_concat_getLast hsome).symm
    exact ⟨_, .environment h₁ _ _ hentries, .environment h₂ _ _ (hsame.symm.trans hentries)⟩
  | file hreads h₁ h₂ hnone₁ hnone₂ hplain₁ hplain₂ hsame =>
    have hvalues : valueOfLines? (group.nameOf name) g₂.lines =
        valueOfLines? (group.nameOf name) g₁.lines := by
      rw [valueOfLines?, valueOfLines?, hsame]
    have hgives := Gives.file hreads h₂ hnone₂ hplain₂
    rw [hvalues] at hgives
    exact ⟨_, .file hreads h₁ hnone₁ hplain₁, hgives⟩
  | nothing hreads h₁ h₂ hnone₁ hnone₂ =>
    exact ⟨none, .nothing hreads h₁ hnone₁, .nothing hreads h₂ hnone₂⟩

end Given

/-! ### Fields apart from each other -/

/-- What settings, or the faults in their place, tell of a field. -/
def Slot.Tells {ρ : Type} (slot : Slot ρ) (result : Except (List FieldFault) ρ)
    (outcome : Except FieldFault slot.α) : Prop :=
  match result with
  | .ok settings => outcome = .ok (slot.value settings)
  | .error faults => ∀ fault, outcome = .error fault ↔ fault ∈ faults ∧ fault.field = slot.name

/-- A group of settings that keeps its fields apart. -/
structure IsolatesFields {ρ : Type} (read : Sources → Except (List FieldFault) ρ) (group : Group)
    (slots : List (Slot ρ)) (unknown : Sources → List FieldFault) : Prop where
  distinct : (slots.map Slot.name).Nodup
  takes : ∀ slot ∈ slots, ∀ g value, Given.Gives group slot.name g value →
    slot.read group g.sources = value.elim (.ok slot.field.default) slot.judge
  apart : ∀ slot ∈ slots, ∀ g₁ g₂, Given.AgreeOn group slot.name g₁ g₂ →
    slot.read group g₁.sources = slot.read group g₂.sources
  tells : ∀ slot ∈ slots, ∀ sources, slot.Tells (read sources) (slot.read group sources)
  fails : ∀ sources, (∃ faults, read sources = .error faults) ↔
    (∃ slot ∈ slots, slot.IsFaulty group sources) ∨ unknown sources ≠ []
  reports : ∀ sources faults, read sources = .error faults → ∃ own,
    faults = own ++ unknown sources ∧
    (own.map FieldFault.field).Sublist (slots.map Slot.name) ∧
    ∀ slot ∈ slots, slot.name ∈ own.map FieldFault.field ↔ slot.IsFaulty group sources

section

variable {ρ : Type} {slots : List (Slot ρ)} {group : Group} {sources : Sources}

theorem Slot.field_of_read {slot : Slot ρ} {fault : FieldFault}
    (h : slot.read group sources = .error fault) : fault.field = slot.name := by
  rw [Slot.read_eq] at h
  cases hfound : sources.find? group slot.name with
  | none =>
    rw [hfound] at h
    cases h
  | some value =>
    rw [hfound, Option.elim_some, Slot.judge] at h
    cases hrule : slot.field.rule value with
    | ok a =>
      rw [hrule] at h
      cases h
    | error complaint =>
      rw [hrule] at h
      cases h
      rfl

theorem mem_faultsOf_iff {fault : FieldFault} :
    fault ∈ faultsOf slots group sources ↔
      ∃ slot ∈ slots, slot.read group sources = .error fault := by
  simp only [faultsOf, List.mem_flatMap, mem_faultOf_iff]

theorem fields_faultOf (slot : Slot ρ) :
    ((faultOf (slot.read group sources)).map FieldFault.field).Sublist [slot.name] := by
  cases h : slot.read group sources with
  | ok a => exact List.nil_sublist _
  | error fault =>
    rw [faultOf, List.map_singleton, Slot.field_of_read h]

theorem fields_faultsOf :
    ((faultsOf slots group sources).map FieldFault.field).Sublist (slots.map Slot.name) := by
  induction slots with
  | nil => exact List.nil_sublist _
  | cons slot slots ih =>
    rw [faultsOf, List.flatMap_cons, List.map_append, List.map_cons, ← List.singleton_append]
    exact (fields_faultOf slot).append ih

/-- The fault of a field is the one that bears its name, since no other field has the name. -/
theorem mem_faultsOf_and_field_iff (hdistinct : (slots.map Slot.name).Nodup) {slot : Slot ρ}
    (hslot : slot ∈ slots) {fault : FieldFault} :
    fault ∈ faultsOf slots group sources ∧ fault.field = slot.name ↔
      slot.read group sources = .error fault := by
  constructor
  · rintro ⟨hfault, hname⟩
    obtain ⟨other, hother, hread⟩ := mem_faultsOf_iff.mp hfault
    have hnames : other.name = slot.name := (Slot.field_of_read hread).symm.trans hname
    obtain rfl := List.inj_on_of_nodup_map hdistinct hother hslot hnames
    exact hread
  · intro hread
    exact ⟨mem_faultsOf_iff.mpr ⟨slot, hslot, hread⟩, Slot.field_of_read hread⟩

theorem mem_fields_faultsOf_iff (hdistinct : (slots.map Slot.name).Nodup) {slot : Slot ρ}
    (hslot : slot ∈ slots) : slot.name ∈ (faultsOf slots group sources).map FieldFault.field ↔
      slot.IsFaulty group sources := by
  rw [List.mem_map]
  exact exists_congr fun fault => mem_faultsOf_and_field_iff hdistinct hslot

variable {read : Sources → Except (List FieldFault) ρ} {unknown : Sources → List FieldFault}

theorem isolatesFields_of_settles (hdistinct : (slots.map Slot.name).Nodup)
    (hsettles : ∀ sources, Settles slots group (unknown sources) sources (read sources))
    (hunknown : ∀ sources, ∀ fault ∈ unknown sources, fault.field ∉ slots.map Slot.name) :
    IsolatesFields read group slots unknown where
  distinct := hdistinct
  takes slot _ g value hgives := by rw [Slot.read_eq, hgives.find?_eq]
  apart slot _ g₁ g₂ hagree := by
    obtain ⟨value, h₁, h₂⟩ := hagree.exists_gives
    rw [Slot.read_eq, Slot.read_eq, h₁.find?_eq, h₂.find?_eq]
  tells slot hslot sources := by
    have hsettled := hsettles sources
    generalize read sources = result at hsettled ⊢
    cases hsettled with
    | made settings _ hvalues => exact hvalues slot hslot
    | refused _ =>
      intro fault
      rw [← mem_faultsOf_and_field_iff hdistinct hslot, List.mem_append]
      refine and_congr_left fun hname => (or_iff_left fun hother => ?_).symm
      exact hunknown sources fault hother (hname ▸ List.mem_map_of_mem hslot)
  fails sources := by
    have hfaulty : (∃ slot ∈ slots, slot.IsFaulty group sources) ↔
        faultsOf slots group sources ≠ [] := by
      rw [ne_eq, List.eq_nil_iff_forall_not_mem, not_forall_not]
      simp only [mem_faultsOf_iff]
      exact ⟨fun ⟨slot, hslot, fault, h⟩ => ⟨fault, slot, hslot, h⟩,
        fun ⟨fault, slot, hslot, h⟩ => ⟨slot, hslot, fault, h⟩⟩
    have hsettled := hsettles sources
    rw [hfaulty]
    generalize read sources = result at hsettled ⊢
    cases hsettled with
    | made settings hunknown hvalues =>
      have hnone : faultsOf slots group sources = [] :=
        faultsOf_eq_nil_iff.mpr fun slot hslot => ⟨_, hvalues slot hslot⟩
      simp [hunknown, hnone]
    | refused hsome =>
      rw [ne_eq, List.append_eq_nil_iff, not_and_or] at hsome
      exact iff_of_true ⟨_, rfl⟩ hsome
  reports sources faults h := by
    have hsettled := hsettles sources
    rw [h] at hsettled
    cases hsettled with
    | refused _ =>
      exact ⟨_, rfl, fields_faultsOf, fun slot hslot => mem_fields_faultsOf_iff hdistinct hslot⟩

end

theorem General.isolatesFields_read :
    IsolatesFields General.read General.group General.slots fun _ => [] :=
  isolatesFields_of_settles (by decide) General.settles nofun

theorem Store.isolatesFields_read :
    IsolatesFields Store.read Store.group Store.slots Store.unknownArguments := by
  refine isolatesFields_of_settles (by decide) Store.settles fun sources fault hfault => ?_
  obtain ⟨argument, hargument, rfl⟩ := List.mem_map.mp hfault
  have hforeign := (List.mem_filter.mp hargument).2
  rw [Bool.not_eq_true', List.contains_eq_mem, decide_eq_false_iff_not] at hforeign
  exact hforeign

/-- Both groups of settings keep their fields apart, and the settings of a store are within their bounds. -/
theorem isolatesFields :
    IsolatesFields General.read General.group General.slots (fun _ => []) ∧
    IsolatesFields Store.read Store.group Store.slots Store.unknownArguments ∧
    ∀ sources s, Store.read sources = .ok s →
      (1 ≤ s.defaultLimit.val ∧ s.defaultLimit.val ≤ 10000) ∧
      (1 ≤ s.batchRows ∧ s.batchRows ≤ 10000) ∧ ∀ limit ∈ s.timeLimit, 0 < limit := by
  refine ⟨General.isolatesFields_read, Store.isolatesFields_read,
    fun sources s _ => ⟨s.defaultLimit.property, ?_, ?_⟩⟩
  · obtain ⟨hlow, hhigh⟩ := s.batchSize.property
    rw [Store.batchRows]
    omega
  · intro limit hlimit
    obtain ⟨positive, -, rfl⟩ := Option.map_eq_some_iff.mp hlimit
    exact positive.property

/-- What other lines and the environment say of other names makes no difference for the port, even where it makes the settings fail. -/
theorem isolatesFields_port :
    let g₁ : Given := ⟨[], [], ["METRICS_PORT='9'", "LOG_LEVEL=DEBUG"]⟩
    let g₂ : Given := ⟨[], [("Log_Level", "bad")],
      ["# ports", "OTEL_SERVICE_NAME=$\x7bLOG_LEVEL\x7d", "METRICS_PORT='9'"]⟩
    General.metricsPortField.read General.group g₁.sources = .ok 9 ∧
      General.metricsPortField.read General.group g₂.sources = .ok 9 ∧
      ∃ faults, General.read g₂.sources = .error faults := by
  intro g₁ g₂
  have hagree : Given.AgreeOn General.group "metrics_port" g₁ g₂ :=
    .file rfl rfl rfl (by decide) (by decide) (by decide +kernel) (by decide +kernel) (by decide)
  have hport : (⟨General.metricsPortField, General.metricsPort⟩ : Slot General) ∈ General.slots := by
    simp [General.slots]
  have hlevel : (⟨General.logThresholdField, General.logThreshold⟩ : Slot General) ∈
      General.slots := by
    simp [General.slots]
  have hsame := isolatesFields.1.apart _ hport g₁ g₂ hagree
  have hread : General.metricsPortField.read General.group g₁.sources = .ok 9 := by decide +kernel
  exact ⟨hread, hsame.symm.trans hread,
    (isolatesFields.1.fails g₂.sources).mpr (.inl ⟨_, hlevel, _, by rfl⟩)⟩

/-- A value that refers to another name changes with that name, and a quote that the value of another name leaves open takes the line away, though nothing changes in what names the field. -/
theorem not_apart_reference_quote :
    let reference := ["LOG_LEVEL=$\x7bOTEL_SERVICE_NAME\x7d"]
    let level := "LOG_LEVEL=DEBUG # it's"
    (General.read (Given.sources ⟨[], [("OTEL_SERVICE_NAME", "DEBUG")], reference⟩)).toOption.map
        General.logThreshold = some .debug ∧
      General.read (Given.sources ⟨[], [], reference⟩) =
        .error [⟨"log_level", .notAChoice ["DEBUG", "INFO", "WARNING", "ERROR"]⟩] ∧
      (General.read (Given.sources ⟨[], [], ["OTEL_SERVICE_NAME=a", level]⟩)).toOption.map
        General.logThreshold = some .debug ∧
      (General.read (Given.sources ⟨[], [], ["OTEL_SERVICE_NAME='a", level]⟩)).toOption.map
        General.logThreshold = some .info := by
  refine ⟨by rfl, by rfl, by rfl, by rfl⟩

end VectorTable.Setting
