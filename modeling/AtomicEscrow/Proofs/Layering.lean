import Mathlib.Data.List.Nodup
import AtomicEscrow.Config.Source

set_option autoImplicit false

/-! # Layers of a configuration

A configuration is loaded from a file and from the environment, which wins (`load_layers`). Both are
*sources*: settings under labels in any case. A label may also be a path into a field. That makes a
table of the field, which fits no field at all, so it can only spoil a configuration.

The order in which the settings of a source are gone through belongs to the library that reads them,
not to the text of the source. So everything here holds for every order: of an answer, that it is one
of those there can be (`Loads`, `Reads`), and of a configuration, that some order gives it. Only where
no two labels are about one field (`Layer.Unambiguous`) there is a single answer, the one of the
order in which the text has them (`loads_iff_eq_load`).

A layer is searched from its end, and empty tables are passed over. What it then gives for a field
is what its source says about the field in the end (`Layer.Says`); nothing after that needs to know
how a layer is searched. The rule for a field is the same for all eight of them, but for the name,
the kind of value and the standard value (`Config.Each`). So it is proved for any one field
(`Config.IsField.field_eq_some_iff`) and carried over to the whole configuration.
-/

namespace AtomicEscrow

/-! ## Lower case -/

/-- Outside of ASCII only the kelvin sign has another lower case, which is a letter of ASCII. -/
theorem Setting.lowerChar_lowerChar (c : Char) : lowerChar (lowerChar c) = lowerChar c := by
  rcases Nat.lt_or_ge c.toNat 128 with hascii | hlarge
  · have key : ∀ n : Fin 128,
        lowerChar (lowerChar (Char.ofNat n.val)) = lowerChar (Char.ofNat n.val) := by decide
    have hc := key ⟨c.toNat, hascii⟩
    rwa [Char.ofNat_toNat] at hc
  · have hlower : c.toLower = c := by
      have hupper : ¬(c.val ≥ 'A'.val ∧ c.val ≤ 'Z'.val) := by
        rintro ⟨-, hle⟩
        have hsmall : c.toNat ≤ 90 := hle
        omega
      unfold Char.toLower
      rw [dif_neg hupper]
    by_cases hkelvin : c.toNat = 0x212A
    · unfold lowerChar
      rw [if_pos hkelvin]
      decide
    · have hsame : lowerChar c = c := by
        unfold lowerChar
        rw [if_neg hkelvin, hlower]
      rw [hsame, hsame]

theorem Setting.lowerText_append (s t : String) :
    lowerText (s ++ t) = lowerText s ++ lowerText t := by
  unfold lowerText
  rw [String.toList_append, List.map_append, String.ofList_append]

theorem Setting.lowerText_lowerText (s : String) : lowerText (lowerText s) = lowerText s := by
  have hsame : lowerChar ∘ lowerChar = lowerChar := funext lowerChar_lowerChar
  unfold lowerText
  rw [String.toList_ofList, List.map_map, hsame]

namespace Layer

/-! ## What a label is about -/

/-- The label is the name of the field, in any case. -/
def Names (label name : String) : Prop := Setting.lowerText label = name

/-- The label is a path into the field. -/
def LeadsInto (label name : String) : Prop :=
  fieldOfPath (Setting.lowerText label) = some name

/-- The label is about the field. -/
def Concerns (label name : String) : Prop := Names label name ∨ LeadsInto label name

variable {name label : String} {setting : Setting}

theorem entry_of_names (hname : fieldOfPath name = none) (h : Names label name) :
    entry label setting = (name, setting) := by
  unfold Names at h
  simp only [entry, h, hname]

theorem entry_of_leadsInto (h : LeadsInto label name) :
    entry label setting = (name, .composite) := by
  unfold LeadsInto at h
  simp only [entry, h]

theorem not_names_of_leadsInto (hname : fieldOfPath name = none) (h : LeadsInto label name) :
    ¬Names label name := by
  intro hnames
  unfold LeadsInto at h
  unfold Names at hnames
  rw [hnames, hname] at h
  cases h

theorem concerns_of_entry (h : (entry label setting).1 = name) : Concerns label name := by
  cases hpath : fieldOfPath (Setting.lowerText label) with
  | none =>
      simp only [entry, hpath] at h
      exact .inl h
  | some field =>
      simp only [entry, hpath] at h
      exact .inr (h ▸ hpath)

theorem entry_fst_eq_iff (hname : fieldOfPath name = none) :
    (entry label setting).1 = name ↔ Concerns label name := by
  refine ⟨concerns_of_entry, ?_⟩
  rintro (h | h)
  · rw [entry_of_names hname h]
  · rw [entry_of_leadsInto h]

/-! ## What a source says about a field -/

/-- Nothing in the source is about the field. -/
def Silent (source : Source) (name : String) : Prop := ∀ e ∈ source, ¬Concerns e.1 name

/-- Whatever the source has about the field are empty tables. -/
def Empties (source : Source) (name : String) : Prop :=
  ∀ e ∈ source, Concerns e.1 name → Names e.1 name ∧ e.2 = .emptyTable

/-- A setting of the field is the last thing that the source says about it, empty tables apart. -/
def Says (source : Source) (name : String) (setting : Setting) : Prop :=
  ∃ before label after, source = before ++ (label, setting) :: after ∧ Names label name ∧
    Empties after name

variable {source : Source} {e : String × Setting}

theorem Says.exists_mem (h : Says source name setting) :
    ∃ label, (label, setting) ∈ source ∧ Names label name := by
  obtain ⟨before, label, after, rfl, hnames, -⟩ := h
  exact ⟨label, List.mem_append_right _ List.mem_cons_self, hnames⟩

theorem mem_given_iff : setting ∈ (ofSource source).given name ↔
    ∃ e ∈ source, entry e.1 e.2 = (name, setting) := by
  simp [given, ofSource, Prod.ext_iff, and_comm]

theorem given_cons_of_concerns (h : (entry e.1 e.2).1 = name) :
    (ofSource (e :: source)).given name =
      (ofSource source).given name ++ [(entry e.1 e.2).2] := by
  simp [given, ofSource, List.filter_append, h]

theorem given_cons_of_not_concerns (h : (entry e.1 e.2).1 ≠ name) :
    (ofSource (e :: source)).given name = (ofSource source).given name := by
  simp [given, ofSource, List.filter_append, h]

theorem get?_eq_none_iff (hname : fieldOfPath name = none) :
    (ofSource source).get? name = none ↔ Silent source name := by
  have hgiven : (ofSource source).get? name = none ↔ (ofSource source).given name = [] := by
    unfold get?
    rw [Option.or_eq_none_iff, List.head?_eq_none_iff]
    refine ⟨And.right, fun h => ⟨?_, h⟩⟩
    rw [h]
    rfl
  rw [hgiven, List.eq_nil_iff_forall_not_mem]
  constructor
  · intro h e he hconcerns
    refine h (entry e.1 e.2).2 (mem_given_iff.2 ⟨e, he, ?_⟩)
    exact Prod.ext ((entry_fst_eq_iff hname).2 hconcerns) rfl
  · intro h setting hmem
    obtain ⟨e, he, hentry⟩ := mem_given_iff.1 hmem
    exact h e he (concerns_of_entry (congrArg Prod.fst hentry))

theorem find?_eq_none_iff (hname : fieldOfPath name = none) :
    ((ofSource source).given name).find? Setting.replaces = none ↔ Empties source name := by
  rw [List.find?_eq_none]
  constructor
  · -- A path into the field makes a composite of it, which replaces what stands there.
    rintro h e he (hnames | hpath)
    · have hkept := h e.2 (mem_given_iff.2 ⟨e, he, entry_of_names hname hnames⟩)
      refine ⟨hnames, ?_⟩
      cases htwo : e.2 with
      | emptyTable => rfl
      | _ =>
          rw [htwo] at hkept
          exact absurd rfl hkept
    · exact absurd rfl (h .composite (mem_given_iff.2 ⟨e, he, entry_of_leadsInto hpath⟩))
  · intro h setting hmem
    obtain ⟨e, he, hentry⟩ := mem_given_iff.1 hmem
    obtain ⟨hnames, hempty⟩ := h e he (concerns_of_entry (congrArg Prod.fst hentry))
    rw [entry_of_names hname hnames, hempty] at hentry
    rw [← (Prod.mk.inj hentry).2]
    decide

theorem says_cons_iff : Says (e :: source) name setting ↔
    Says source name setting ∨ Names e.1 name ∧ e.2 = setting ∧ Empties source name := by
  constructor
  · rintro ⟨before, label, after, heq, hnames, hafter⟩
    -- The entry that speaks is the first one or a later one.
    cases before with
    | nil =>
        obtain ⟨rfl, rfl⟩ := List.cons.inj heq
        exact .inr ⟨hnames, rfl, hafter⟩
    | cons first before =>
        obtain ⟨rfl, rfl⟩ := List.cons.inj heq
        exact .inl ⟨before, label, after, rfl, hnames, hafter⟩
  · rintro (⟨before, label, after, rfl, hnames, hafter⟩ | ⟨hnames, rfl, hempties⟩)
    · exact ⟨e :: before, label, after, rfl, hnames, hafter⟩
    · exact ⟨[], e.1, source, rfl, hnames, hempties⟩

/-- A setting that stands alone is found iff it is one of the field itself. -/
theorem find?_singleton_eq_some_iff (hname : fieldOfPath name = none)
    (hcomposite : setting ≠ .composite) (hreplaces : setting.replaces = true)
    (hconcerns : Concerns e.1 name) :
    [(entry e.1 e.2).2].find? Setting.replaces = some setting ↔
      Names e.1 name ∧ e.2 = setting := by
  -- An entry concerns a field under its own name, or by a path that makes it a composite.
  rcases hconcerns with hnames | hpath
  · rw [entry_of_names hname hnames, List.find?_singleton]
    constructor
    · intro h
      split at h
      case isTrue => exact ⟨hnames, Option.some.inj h⟩
      case isFalse => cases h
    · rintro ⟨-, rfl⟩
      rw [if_pos hreplaces]
  · rw [entry_of_leadsInto hpath]
    constructor
    · intro h
      exact absurd (Option.some.inj h).symm hcomposite
    · rintro ⟨hnames, -⟩
      exact absurd hnames (not_names_of_leadsInto hname hpath)

/-- Later settings come first in the layer, so the one that is found is the last of the source. -/
theorem find?_eq_some_iff (hname : fieldOfPath name = none) (hcomposite : setting ≠ .composite)
    (hreplaces : setting.replaces = true) :
    ((ofSource source).given name).find? Setting.replaces = some setting ↔
      Says source name setting := by
  induction source with
  | nil =>
      constructor
      · intro h
        cases h
      · rintro ⟨before, label, after, heq, -⟩
        simp at heq
  | cons e source ih =>
      rw [says_cons_iff]
      -- The first setting of the source is the last one of the layer: it counts if no other does.
      by_cases hconcerns : (entry e.1 e.2).1 = name
      · rw [given_cons_of_concerns hconcerns, List.find?_append, Option.or_eq_some_iff, ih,
          find?_singleton_eq_some_iff hname hcomposite hreplaces (concerns_of_entry hconcerns),
          find?_eq_none_iff hname]
        exact or_congr_right (by rw [and_comm, and_assoc])
      · have hnames : ¬Names e.1 name := fun h => hconcerns ((entry_fst_eq_iff hname).2 (.inl h))
        rw [given_cons_of_not_concerns hconcerns, ih]
        exact ⟨.inl, fun h => h.resolve_right fun hfirst => hnames hfirst.1⟩

theorem get?_eq_some_iff (hname : fieldOfPath name = none) (hcomposite : setting ≠ .composite)
    (hreplaces : setting.replaces = true) :
    (ofSource source).get? name = some setting ↔ Says source name setting := by
  rw [← find?_eq_some_iff hname hcomposite hreplaces]
  unfold get?
  rw [Option.or_eq_some_iff]
  refine ⟨?_, .inl⟩
  rintro (h | ⟨hnone, hhead⟩)
  · exact h
  · have hmem := List.mem_of_mem_head? hhead
    exact absurd hreplaces (List.find?_eq_none.1 hnone setting hmem)

/-! ## The order of a source -/

/-- No two labels of the source are about one field. -/
def Unambiguous (source : Source) : Prop := (source.map fun e => (entry e.1 e.2).1).Nodup

instance (source : Source) : Decidable (Unambiguous source) := List.nodupDecidable _

theorem given_perm {source source' : Source} (h : source.Perm source') :
    ((ofSource source).given name).Perm ((ofSource source').given name) := by
  have hentries : (ofSource source).settings.Perm (ofSource source').settings := h.map _
  have hreverse := (List.reverse_perm _).trans (hentries.trans (List.reverse_perm _).symm)
  exact (hreverse.filter _).map _

theorem length_given_le_one (h : Unambiguous source) :
    ((ofSource source).given name).length ≤ 1 := by
  have hentries : ((ofSource source).settings.reverse.map Prod.fst).Nodup := by
    rw [List.map_reverse, List.nodup_reverse, ofSource, List.map_map]
    exact h
  -- The names that are kept are all the same one, so there is one of them at most.
  have hsame : ((ofSource source).settings.reverse.filter fun s => s.1 = name).map Prod.fst =
      .replicate ((ofSource source).given name).length name := by
    refine List.eq_replicate_iff.2 ⟨by simp [given], fun label hlabel => ?_⟩
    obtain ⟨e, he, rfl⟩ := List.mem_map.1 hlabel
    exact of_decide_eq_true (List.mem_filter.1 he).2
  have hnodup := hsame ▸ hentries.sublist (List.filter_sublist.map Prod.fst)
  exact List.nodup_replicate.1 hnodup

/-- Where no two labels are about one field all orders give one layer. -/
theorem get?_perm {source source' : Source} (hone : Unambiguous source)
    (h : source'.Perm source) : (ofSource source').get? name = (ofSource source).get? name := by
  have hsame : (ofSource source').given name = (ofSource source).given name := by
    have hperm : ((ofSource source').given name).Perm ((ofSource source).given name) := given_perm h
    have hlength : ((ofSource source).given name).length ≤ 1 := length_given_le_one hone
    match hgiven : (ofSource source).given name, hlength with
    | [], _ => exact List.perm_nil.1 (hgiven ▸ hperm)
    | [setting], _ => exact List.perm_singleton.1 (hgiven ▸ hperm)
  unfold get?
  rw [hsame]

/-! ## The two sources -/

theorem mem_environmentSource_iff {environment : List (String × String)} {name : String}
    {setting : Setting} : (name, setting) ∈ environmentSource environment ↔
      ∃ v ∈ environment, Setting.lowerText v.1 = "swap_" ++ name ∧ setting = .text v.2 := by
  have hmark : ∀ label : String, "swap_" ++ name = label ↔
      environmentMark ++ name.toList = label.toList := by
    intro label
    rw [← String.toList_inj, String.toList_append]
    rfl
  unfold environmentSource
  rw [List.mem_filterMap]
  refine exists_congr fun v => and_congr_right fun _ => ?_
  rw [eq_comm (a := Setting.lowerText v.1), hmark]
  simp only
  split
  case isTrue hprefix =>
    obtain ⟨rest, hrest⟩ := List.isPrefixOf_iff_prefix.1 hprefix
    rw [← hrest, List.drop_left, Option.some.injEq, Prod.mk.injEq, List.append_cancel_left_eq,
      ← String.toList_inj, String.toList_ofList]
    exact and_congr eq_comm eq_comm
  case isFalse hprefix =>
    constructor
    · intro h
      cases h
    · rintro ⟨heq, -⟩
      exact absurd (List.isPrefixOf_iff_prefix.2 ⟨name.toList, heq⟩) hprefix

/-- The names of overrides are in lower case already. -/
theorem lowerText_of_mem_environmentSource {environment : List (String × String)}
    (h : (name, setting) ∈ environmentSource environment) : Setting.lowerText name = name := by
  obtain ⟨v, -, hv, -⟩ := mem_environmentSource_iff.1 h
  have hlower := Setting.lowerText_lowerText v.1
  rw [hv, Setting.lowerText_append, ← String.toList_inj, String.toList_append,
    String.toList_append] at hlower
  exact String.toList_inj.1 (List.append_cancel_left hlower)

theorem mem_tableSource {members : List (String × Toml)} {m : String × Toml} (h : m ∈ members) :
    (m.1, Setting.ofToml m.2) ∈ tableSource members := List.mem_map_of_mem h

theorem mem_environmentSource {environment : List (String × String)} {v : String × String}
    {name : String} (h : v ∈ environment) (hname : Setting.lowerText v.1 = "swap_" ++ name) :
    (name, Setting.text v.2) ∈ environmentSource environment :=
  mem_environmentSource_iff.2 ⟨v, h, hname, rfl⟩

end Layer

namespace Config

open Layer

/-! ## Fields -/

/-- A name and what its settings have to fit, as they are for a field. -/
structure IsField {α : Type} (name : String) (fit : Setting → Option α) : Prop where
  lower : Setting.lowerText name = name
  noPath : fieldOfPath name = none
  composite : fit .composite = none
  emptyTable : fit .emptyTable = none

/-- Something is so for every field: for its name, what its settings have to fit, its standard
value and its value. -/
structure Each (c : Config) (P : {α : Type} → String → (Setting → Option α) → α → α → Prop) :
    Prop where
  programId : P "program_id" Setting.pubkey? standard.programId c.programId
  relayProgramId : P "relay_program_id" Setting.pubkey? standard.relayProgramId c.relayProgramId
  ed25519ProgramId :
    P "ed25519_program_id" Setting.pubkey? standard.ed25519ProgramId c.ed25519ProgramId
  relayPruningFactor :
    P "relay_pruning_factor" Setting.shortWord? standard.relayPruningFactor c.relayPruningFactor
  relaySafetyBuffer :
    P "relay_safety_buffer" Setting.shortWord? standard.relaySafetyBuffer c.relaySafetyBuffer
  blockheightExpiryThreshold :
    P "blockheight_expiry_threshold" Setting.word? standard.blockheightExpiryThreshold
      c.blockheightExpiryThreshold
  eventLogCapacity :
    P "event_log_capacity" Setting.word? standard.eventLogCapacity c.eventLogCapacity
  logLevel : P "log_level" Setting.text? standard.logLevel c.logLevel

theorem ofSettings_eq_some_iff {find : String → Option Setting} {c : Config} :
    ofSettings find = some c ↔
      c.Each fun name fit standard value => field (find name) fit standard = some value := by
  cases c
  simp only [ofSettings, Option.bind_eq_bind, Option.bind_eq_some_iff, Option.pure_def,
    Option.some.injEq, mk.injEq]
  constructor
  · rintro ⟨_, h₁, _, h₂, _, h₃, _, h₄, _, h₅, _, h₆, _, h₇, _, h₈, rfl, rfl, rfl, rfl, rfl, rfl,
      rfl, rfl⟩
    exact ⟨h₁, h₂, h₃, h₄, h₅, h₆, h₇, h₈⟩
  · rintro ⟨h₁, h₂, h₃, h₄, h₅, h₆, h₇, h₈⟩
    exact ⟨_, h₁, _, h₂, _, h₃, _, h₄, _, h₅, _, h₆, _, h₇, _, h₈, rfl, rfl, rfl, rfl, rfl, rfl,
      rfl, rfl⟩

theorem each_isField (c : Config) : c.Each fun name fit _ _ => IsField name fit := by
  constructor <;> exact ⟨by decide, by decide, rfl, rfl⟩

theorem Each.imp {c : Config} {P Q : {α : Type} → String → (Setting → Option α) → α → α → Prop}
    (h : ∀ {α : Type} {name : String} {fit : Setting → Option α} {standard value : α},
      IsField name fit → P name fit standard value → Q name fit standard value)
    (hP : c.Each P) : c.Each Q := by
  obtain ⟨f₁, f₂, f₃, f₄, f₅, f₆, f₇, f₈⟩ := c.each_isField
  obtain ⟨p₁, p₂, p₃, p₄, p₅, p₆, p₇, p₈⟩ := hP
  exact ⟨h f₁ p₁, h f₂ p₂, h f₃ p₃, h f₄ p₄, h f₅ p₅, h f₆ p₆, h f₇ p₇, h f₈ p₈⟩

/-! ## The value of a field -/

section Field

variable {α : Type} {name : String} {fit : Setting → Option α} {standard value : α}
variable {environment file : Source}

/-- What two sources give a field: what the environment says, or else what the file says, or else
the standard value. -/
inductive Given (environment file : Source) (name : String) (fit : Setting → Option α)
    (standard : α) : α → Prop
  | environment {setting : Setting} {value : α} (hlast : Says environment name setting)
      (hfit : fit setting = some value) : Given environment file name fit standard value
  | file {setting : Setting} {value : α} (hsilent : Silent environment name)
      (hlast : Says file name setting) (hfit : fit setting = some value) :
      Given environment file name fit standard value
  | standard (henvironment : Silent environment name) (hfile : Silent file name) :
      Given environment file name fit standard standard

theorem IsField.get?_eq_some_iff (h : IsField name fit) {source : Source} {setting : Setting}
    (hfit : fit setting = some value) :
    (ofSource source).get? name = some setting ↔ Says source name setting := by
  have hcomposite : setting ≠ .composite := by
    rintro rfl
    rw [h.composite] at hfit
    cases hfit
  have hreplaces : setting.replaces = true := by
    cases setting with
    | emptyTable =>
        rw [h.emptyTable] at hfit
        cases hfit
    | _ => rfl
  exact Layer.get?_eq_some_iff h.noPath hcomposite hreplaces

theorem IsField.field_eq_some_iff (h : IsField name fit) :
    field (((ofSource environment).get? name).or ((ofSource file).get? name)) fit standard =
        some value ↔
      Given environment file name fit standard value := by
  constructor
  · intro hfield
    -- The environment answers if it speaks of the field, else the file, else the standard.
    cases henvironment : (ofSource environment).get? name with
    | some setting =>
        rw [henvironment] at hfield
        exact .environment ((h.get?_eq_some_iff hfield).1 henvironment) hfield
    | none =>
        have hsilent := (Layer.get?_eq_none_iff h.noPath).1 henvironment
        rw [henvironment, Option.none_or] at hfield
        cases hfile : (ofSource file).get? name with
        | some setting =>
            rw [hfile] at hfield
            exact .file hsilent ((h.get?_eq_some_iff hfield).1 hfile) hfield
        | none =>
            rw [hfile] at hfield
            cases hfield
            exact .standard hsilent ((Layer.get?_eq_none_iff h.noPath).1 hfile)
  · intro hgiven
    cases hgiven with
    | environment hlast hfit =>
        rw [(h.get?_eq_some_iff hfit).2 hlast]
        exact hfit
    | file hsilent hlast hfit =>
        rw [(Layer.get?_eq_none_iff h.noPath).2 hsilent, (h.get?_eq_some_iff hfit).2 hlast]
        exact hfit
    | standard henvironment hfile =>
        rw [(Layer.get?_eq_none_iff h.noPath).2 henvironment,
          (Layer.get?_eq_none_iff h.noPath).2 hfile]
        rfl

/-- Two sources give a field one value at most. -/
theorem IsField.given_unique (h : IsField name fit) {other : α}
    (hvalue : Given environment file name fit standard value)
    (hother : Given environment file name fit standard other) : value = other := by
  have heq := (h.field_eq_some_iff.2 hvalue).symm.trans (h.field_eq_some_iff.2 hother)
  exact Option.some.inj heq

end Field

/-! ## Loading -/

/-- A configuration that the program can honour. -/
structure Valid (c : Config) : Prop where
  threshold : c.blockheightExpiryThreshold.toNat ≤ 1000000000
  eventLog : 0 < c.eventLogCapacity.toNat

theorem not_lt_threshold_iff {threshold : UInt64} :
    ¬expiryThreshold < threshold ↔ threshold.toNat ≤ 1000000000 := by
  rw [UInt64.lt_iff_toNat_lt, Nat.not_lt]
  rfl

theorem ne_zero_iff {n : UInt64} : n ≠ 0 ↔ 0 < n.toNat := by
  rw [Nat.pos_iff_ne_zero, ne_eq, ne_eq, ← UInt64.toNat_inj]
  rfl

theorem validate_eq_ok_iff {c : Config} : c.validate = .ok () ↔ c.Valid := by
  unfold validate
  constructor
  · intro h
    split at h
    case isTrue => cases h
    case isFalse hthreshold =>
      split at h
      case isTrue => cases h
      case isFalse hlog => exact ⟨not_lt_threshold_iff.1 hthreshold, ne_zero_iff.1 hlog⟩
  · intro h
    rw [if_neg (not_lt_threshold_iff.2 h.threshold), if_neg (ne_zero_iff.2 h.eventLog)]

theorem ofValidSettings_of_some {find : String → Option Setting} {c : Config}
    (h : ofSettings find = some c) : ofValidSettings find = c.validate.map fun _ => c := by
  unfold ofValidSettings
  rw [h]
  show (c.validate.bind fun _ => .ok c) = _
  cases c.validate <;> rfl

theorem ofValidSettings_eq_ok_iff {find : String → Option Setting} {c : Config} :
    ofValidSettings find = .ok c ↔ ofSettings find = some c ∧ c.Valid := by
  -- Every field is read before any bound is checked.
  cases hfind : ofSettings find with
  | none => simp [ofValidSettings, hfind]
  | some config =>
      rw [ofValidSettings_of_some hfind, Option.some.injEq]
      constructor
      · intro h
        cases hvalidate : config.validate with
        | error cause =>
            rw [hvalidate] at h
            cases h
        | ok =>
            rw [hvalidate] at h
            cases h
            exact ⟨rfl, validate_eq_ok_iff.1 hvalidate⟩
      · rintro ⟨rfl, hvalid⟩
        rw [validate_eq_ok_iff.2 hvalid]
        rfl

/-- Every field has the value that the environment and the file give it, in the order in which they
are gone through. -/
def GivenBy (c : Config) (environment file : Source) : Prop := c.Each (Given environment file)

section Orders

variable {file : Option String} {environment : List (String × String)} {c : Config}
variable {members : List (String × Toml)} {overrides settings : Source}

theorem ofSources_eq_ok_iff :
    ofSources overrides settings = .ok c ↔ c.GivenBy overrides settings ∧ c.Valid := by
  unfold ofSources
  rw [ofValidSettings_eq_ok_iff, ofSettings_eq_some_iff]
  refine and_congr_left fun _ => ⟨?_, ?_⟩
  · exact Each.imp fun hfield => hfield.field_eq_some_iff.1
  · exact Each.imp fun hfield => hfield.field_eq_some_iff.2

/-- Without overrides a file is read as its text, in whatever order. -/
theorem ofSources_nil (settings : Source) : ofSources [] settings = ofFile settings := rfl

theorem loads_ok_iff :
    Loads file environment (.ok c) ↔
      ∃ members overrides settings, fileMembers file = some members ∧
        overrides.Perm (environmentSource environment) ∧ settings.Perm (tableSource members) ∧
        c.GivenBy overrides settings ∧ c.Valid := by
  constructor
  · intro h
    generalize hanswer : Except.ok c = answer at h
    cases h with
    | unbuildable => cases hanswer
    | inOrder hmembers hoverrides hsettings =>
        exact ⟨_, _, _, hmembers, hoverrides, hsettings, ofSources_eq_ok_iff.1 hanswer.symm⟩
  · rintro ⟨members, overrides, settings, hmembers, hoverrides, hsettings, hgiven⟩
    rw [← ofSources_eq_ok_iff.2 hgiven]
    exact .inOrder hmembers hoverrides hsettings

theorem reads_ok_iff {text : String} :
    Reads text (.ok c) ↔
      ∃ members settings, Toml.parse text = some members ∧ settings.Perm (tableSource members) ∧
        ofFile settings = .ok c := by
  constructor
  · intro h
    generalize hanswer : Except.ok c = answer at h
    cases h with
    | unreadable => cases hanswer
    | inOrder hparse horder => exact ⟨_, _, hparse, horder, rfl⟩
  · rintro ⟨members, settings, hparse, horder, hfile⟩
    rw [← hfile]
    exact .inOrder hparse horder

theorem loads_load (file : Option String) (environment : List (String × String)) :
    Loads file environment (load file environment) := by
  unfold load
  cases hmembers : fileMembers file with
  | none => exact .unbuildable hmembers
  | some members => exact .inOrder hmembers (.refl _) (.refl _)

theorem reads_ofToml (text : String) : Reads text (ofToml text) := by
  unfold ofToml
  cases hparse : Toml.parse text with
  | none => exact .unreadable hparse
  | some members => exact .inOrder hparse (.refl _)

/-- Without a variable for it there are the same configurations of a file as of its text. -/
theorem loads_ok_iff_reads {text : String} (h : environmentSource environment = []) :
    Loads (some text) environment (.ok c) ↔ Reads text (.ok c) := by
  rw [loads_ok_iff, reads_ok_iff, h]
  refine exists_congr fun members => ?_
  constructor
  · rintro ⟨overrides, settings, hmembers, hoverrides, hsettings, hgiven⟩
    cases List.perm_nil.1 hoverrides
    exact ⟨settings, hmembers, hsettings, ofSources_eq_ok_iff.2 hgiven⟩
  · rintro ⟨settings, hparse, hsettings, hfile⟩
    exact ⟨[], settings, hparse, .nil, hsettings, ofSources_eq_ok_iff.1 hfile⟩

theorem ofSources_perm {overrides' settings' : Source} (hone : Unambiguous overrides)
    (hone' : Unambiguous settings) (hoverrides : overrides'.Perm overrides)
    (hsettings : settings'.Perm settings) :
    ofSources overrides' settings' = ofSources overrides settings := by
  unfold ofSources
  refine congrArg ofValidSettings (funext fun name => ?_)
  rw [get?_perm hone hoverrides, get?_perm hone' hsettings]

/-- Where no two labels are about one field there is one answer, whatever the order. -/
theorem loads_iff_eq_load {answer : Except ConfigError Config}
    (hone : Unambiguous (environmentSource environment))
    (hone' : ∀ members, fileMembers file = some members → Unambiguous (tableSource members)) :
    Loads file environment answer ↔ answer = load file environment := by
  constructor
  · intro h
    unfold load
    cases h with
    | unbuildable hmembers => rw [hmembers]
    | inOrder hmembers hoverrides hsettings =>
        rw [hmembers]
        exact ofSources_perm hone (hone' _ hmembers) hoverrides hsettings
  · rintro rfl
    exact loads_load file environment

theorem reads_iff_eq_ofToml {text : String} {answer : Except ConfigError Config}
    (hone : ∀ members, Toml.parse text = some members → Unambiguous (tableSource members)) :
    Reads text answer ↔ answer = ofToml text := by
  constructor
  · intro h
    unfold ofToml
    cases h with
    | unreadable hparse => rw [hparse]
    | inOrder hparse horder =>
        rw [hparse]
        have hnone : Unambiguous [] := List.nodup_nil
        exact ofSources_perm hnone (hone _ hparse) .nil horder
  · rintro rfl
    exact reads_ofToml text

end Orders

/-- The environment wins over the file, and the file over what is standard. -/
structure Layered {α : Type} (environment : List (String × String))
    (members : List (String × Toml)) (name : String) (fit : Setting → Option α)
    (standard value : α) : Prop where
  ofVariable : ∀ v ∈ environment, Setting.lowerText v.1 = "swap_" ++ name →
    fit (.text v.2) = some value
  ofMember : (∀ v ∈ environment, Setting.lowerText v.1 ≠ "swap_" ++ name) →
    (∃ m ∈ members, Setting.lowerText m.1 = name) →
      ∃ m ∈ members, Setting.lowerText m.1 = name ∧ fit (.ofToml m.2) = some value
  otherwise : (∀ v ∈ environment, Setting.lowerText v.1 ≠ "swap_" ++ name) →
    (∀ m ∈ members, Setting.lowerText m.1 ≠ name) → value = standard

/-- With no two variables of one name, a field has the value of the variable that is named for it,
or else that of a member of the file that is, or else the standard one. -/
theorem layered_of_given {α : Type} {environment : List (String × String)}
    {members : List (String × Toml)} {overrides settings : Source} {name : String}
    {fit : Setting → Option α} {standard value : α}
    (hdistinct : ((environmentSource environment).map Prod.fst).Nodup)
    (hoverrides : overrides.Perm (environmentSource environment))
    (hsettings : settings.Perm (tableSource members)) (h : IsField name fit)
    (hgiven : Given overrides settings name fit standard value) :
    Layered environment members name fit standard value := by
  have hspoken : ∀ v ∈ environment, Setting.lowerText v.1 = "swap_" ++ name →
      ¬Silent overrides name := fun v hv hname hsilent =>
    hsilent _ (hoverrides.mem_iff.2 (mem_environmentSource hv hname)) (.inl h.lower)
  -- A derivation of `Given` names the layer that decides; `Layered` says it of the variables and
  -- members themselves.
  cases hgiven with
  | environment hlast hfit =>
      obtain ⟨label, hmem, hnames⟩ := hlast.exists_mem
      have hmem := hoverrides.mem_iff.1 hmem
      have hlabel : label = name := (lowerText_of_mem_environmentSource hmem).symm.trans hnames
      subst hlabel
      obtain ⟨v, hv, hname, rfl⟩ := mem_environmentSource_iff.1 hmem
      refine ⟨fun other hother hsame => ?_, fun hnone => absurd hname (hnone v hv),
        fun hnone => absurd hname (hnone v hv)⟩
      -- Another variable of that name would be another setting under it.
      have heq := List.inj_on_of_nodup_map hdistinct hmem (mem_environmentSource hother hsame) rfl
      rw [← (Prod.mk.inj heq).2]
      exact hfit
  | file hsilent hlast hfit =>
      obtain ⟨label, hmem, hnames⟩ := hlast.exists_mem
      obtain ⟨m, hm, heq⟩ := List.mem_map.1 (hsettings.mem_iff.1 hmem)
      cases heq
      exact ⟨fun v hv hname => absurd hsilent (hspoken v hv hname),
        fun _ _ => ⟨m, hm, hnames, hfit⟩, fun _ hnone => absurd hnames (hnone m hm)⟩
  | standard henvironment hfile =>
      refine ⟨fun v hv hname => absurd henvironment (hspoken v hv hname), ?_, fun _ _ => rfl⟩
      rintro - ⟨m, hm, hname⟩
      exact absurd (.inl hname) (hfile _ (hsettings.mem_iff.2 (mem_tableSource hm)))

theorem toNat_maxConfirmations (c : Config) : (c.maxConfirmations.toNat : Int) =
    max 0 ((c.relayPruningFactor.toNat : Int) - c.relaySafetyBuffer.toNat) := by
  unfold maxConfirmations
  split
  case isTrue hle =>
    rw [UInt16.toNat_sub_of_le _ _ hle]
    have hle' := UInt16.le_iff_toNat_le.1 hle
    omega
  case isFalse hlt =>
    have hlt' := UInt16.lt_iff_toNat_lt.1 (UInt16.not_le.1 hlt)
    show (0 : Int) = _
    omega

/-- Two sources are refused if what they give makes no valid configuration. -/
theorem ofSources_of_not_valid {overrides settings : Source}
    (h : ∀ c : Config, c.GivenBy overrides settings → ¬c.Valid) :
    ∃ cause, ofSources overrides settings = .error cause := by
  cases hanswer : ofSources overrides settings with
  | error cause => exact ⟨cause, rfl⟩
  | ok c =>
      obtain ⟨hgiven, hvalid⟩ := ofSources_eq_ok_iff.1 hanswer
      exact absurd hvalid (h c hgiven)

/-- A threshold that is too high is refused, wherever it comes from. -/
theorem ofSources_of_threshold {overrides settings : Source} {threshold : UInt64}
    (hgiven : Given overrides settings "blockheight_expiry_threshold" Setting.word?
      standard.blockheightExpiryThreshold threshold) (hhigh : 1000000000 < threshold.toNat) :
    ∃ cause, ofSources overrides settings = .error cause := by
  refine ofSources_of_not_valid fun c hall hvalid => ?_
  have heq : c.blockheightExpiryThreshold = threshold :=
    c.each_isField.blockheightExpiryThreshold.given_unique hall.blockheightExpiryThreshold hgiven
  exact Nat.not_le.2 hhigh (heq ▸ hvalid.threshold)

/-- An event log without room is refused, wherever it comes from. -/
theorem ofSources_of_noEventLog {overrides settings : Source}
    (hgiven : Given overrides settings "event_log_capacity" Setting.word?
      standard.eventLogCapacity 0) :
    ∃ cause, ofSources overrides settings = .error cause := by
  refine ofSources_of_not_valid fun c hall hvalid => ?_
  have heq : c.eventLogCapacity = 0 :=
    c.each_isField.eventLogCapacity.given_unique hall.eventLogCapacity hgiven
  exact absurd (heq ▸ hvalid.eventLog) (by decide)

end Config

end AtomicEscrow
