import StoryExports.Addon
import StoryExports.Proofs.Occurrences

/-!
# The last import of an export

The table of local names is filled from the first import of a module to the last one, and each name
in braces may take the place of an earlier one. So an export has the name that its last import gives
it, and what is no import leaves no trace. Looked up from the end of the module, the table is the
first name found, which is how the two readings are brought together.
-/
namespace StoryExports

open Script (Item ImportedName)

/-- The source is the package: by its name, or as a path with the piece that stands for it. -/
def Options.NamesPackage (o : Options) (source : Text) : Prop :=
  source = o.packageName ∨ ∃ piece, o.selfReference = some piece ∧ piece ≠ [] ∧ piece <:+: source

theorem Options.isPackage_iff {o : Options} {source : Text} :
    o.isPackage source = true ↔ o.NamesPackage source := by
  rw [isPackage, Bool.or_eq_true, beq_iff_eq, NamesPackage]
  cases o.selfReference with
  | none => simp
  | some piece => simp [Text.contains_iff]

/-- A name in braces that takes an export, and not only its type. The export is written as a word
or as a string before `as`, or it is the name that is bound. -/
inductive Script.ImportedName.Takes (exported : Text) : ImportedName → Prop
  | word (binding : Text) : Takes exported ⟨.named (some (.word exported)), binding, false⟩
  | string (binding : Text) : Takes exported ⟨.named (some (.string exported)), binding, false⟩
  | bound : Takes exported ⟨.named none, exported, false⟩

theorem Script.ImportedName.takes_iff {n : ImportedName} {exported : Text} :
    n.Takes exported ↔ n.typeOnly = false ∧ n.exported? = some exported := by
  constructor
  · rintro (binding | binding | -)
    all_goals exact ⟨rfl, rfl⟩
  · obtain ⟨imported, binding, typeOnly⟩ := n
    rintro ⟨rfl, h⟩
    match imported, h with
    | .named (some (.word _)), rfl => exact .word binding
    | .named (some (.string _)), rfl => exact .string binding
    | .named none, rfl => exact .bound

instance (exported : Text) (n : ImportedName) : Decidable (n.Takes exported) :=
  decidable_of_iff _ Script.ImportedName.takes_iff.symm

/-- The item imports names from the package, and not only types. -/
def Script.Item.ImportsNames (options : Options) (i : Item) (names : List ImportedName) : Prop :=
  ∃ source, i.body = .importing source false names ∧ options.NamesPackage source

/-- The names that an item imports from the package; there are none if it imports only types. -/
def Script.Item.packageNames (options : Options) (i : Item) : List ImportedName :=
  match i.body with
  | .importing source false names => if options.isPackage source then names else []
  | _ => []

theorem Script.Item.packageNames_eq {options : Options} {i : Item} {names : List ImportedName}
    (h : i.ImportsNames options names) : i.packageNames options = names := by
  obtain ⟨source, hbody, hpackage⟩ := h
  simp [packageNames, hbody, Options.isPackage_iff.mpr hpackage]

theorem Script.Item.importsNames_of_mem {options : Options} {i : Item} {n : ImportedName}
    (h : n ∈ i.packageNames options) : i.ImportsNames options (i.packageNames options) := by
  obtain ⟨span, leading, body⟩ := i
  match body, h with
  | .importing source false names, h =>
    by_cases hpackage : options.isPackage source = true
    · exact ⟨source, by simp [packageNames, hpackage], Options.isPackage_iff.mp hpackage⟩
    · simp [packageNames, hpackage] at h

/-- The item takes an export from the package. -/
def Script.Item.TakesExport (options : Options) (exported : Text) (i : Item) : Prop :=
  ∃ names, i.ImportsNames options names ∧ ∃ n ∈ names, n.Takes exported

theorem Script.Item.takesExport_iff {options : Options} {exported : Text} {i : Item} :
    i.TakesExport options exported ↔ ∃ n ∈ i.packageNames options, n.Takes exported := by
  constructor
  · rintro ⟨names, himports, htakes⟩
    rwa [packageNames_eq himports]
  · rintro ⟨n, hn, htakes⟩
    exact ⟨_, importsNames_of_mem hn, n, hn, htakes⟩

/-- The last name of a module that takes an export: no later name of its item takes it, and no
later item. -/
def Script.ImportedName.IsLast (options : Options) (m : List Item) (exported : Text)
    (n : ImportedName) : Prop :=
  ∃ earlier i later before after, m = earlier ++ i :: later ∧
    i.ImportsNames options (before ++ n :: after) ∧ n.Takes exported ∧
    (∀ n' ∈ after, ¬ n'.Takes exported) ∧ ∀ i' ∈ later, ¬ i'.TakesExport options exported

/-- An import, whatever it imports. -/
def Script.Item.isImport (i : Item) : Bool :=
  match i.body with
  | .importing _ _ _ => true
  | _ => false

theorem Script.Item.packageNames_of_not_isImport {options : Options} {i : Item}
    (h : i.isImport = false) : i.packageNames options = [] := by
  obtain ⟨span, leading, body⟩ := i
  cases body with
  | importing source typeOnly names => cases h
  | _ => rfl

theorem Api.text_injective {api api' : Api} (h : api.text = api'.text) : api = api' := by
  revert h
  cases api <;> cases api' <;> decide

namespace Aliases

variable {options : Options} {m : List Item} {api : Api} {binding : Text}

/-! ### One name -/

theorem get_set (a : Aliases) (api api' : Api) (binding : Text) :
    (a.set api binding).get api' = if api = api' then some binding else a.get api' := by
  cases api <;> cases api' <;> rfl

theorem get_note (a : Aliases) (n : ImportedName) (api : Api) :
    (a.note n).get api = if n.Takes api.text then some n.binding else a.get api := by
  rw [note]
  cases htype : n.typeOnly with
  | true => simp [ImportedName.takes_iff, htype]
  | false =>
    simp only [Bool.false_eq_true, if_false, ImportedName.takes_iff, htype, true_and]
    cases hfind : Api.all.find? fun api => n.exported? == some api.text with
    | some api' =>
      have hname : n.exported? = some api'.text := by simpa using List.find?_some hfind
      have hsame : api'.text = api.text ↔ api' = api := ⟨Api.text_injective, congrArg Api.text⟩
      simp only [get_set, hname, Option.some.injEq, hsame]
    | none =>
      have hother : ¬ n.exported? = some api.text := by
        simpa using List.find?_eq_none.mp hfind api (by cases api <;> decide)
      rw [if_neg hother]

/-! ### All names of a module -/

/-- The name that the last of some imported names gives an export. -/
def lastBinding? (api : Api) (names : List ImportedName) : Option Text :=
  (names.reverse.find? fun n => n.Takes api.text).map (·.binding)

theorem get_foldl_note (a : Aliases) (names : List ImportedName) (api : Api) :
    (names.foldl note a).get api = (lastBinding? api names).or (a.get api) := by
  induction names generalizing a with
  | nil => rfl
  | cons n names ih =>
    rw [List.foldl_cons, ih, get_note]
    by_cases h : n.Takes api.text
    · simp [lastBinding?, h, List.find?_append]
    · simp [lastBinding?, h, List.find?_append]

theorem lastBinding?_eq_some_iff {names : List ImportedName} :
    lastBinding? api names = some binding ↔ ∃ before n after, names = before ++ n :: after ∧
      n.Takes api.text ∧ n.binding = binding ∧ ∀ n' ∈ after, ¬ n'.Takes api.text := by
  simp only [lastBinding?, Option.map_eq_some_iff, List.find?_eq_some_iff_append]
  constructor
  · rintro ⟨n, ⟨htakes, after, before, hnames, hafter⟩, hbinding⟩
    refine ⟨before.reverse, n, after.reverse, ?_, by simpa using htakes, hbinding,
      fun n' hn' => by simpa using hafter n' (List.mem_reverse.mp hn')⟩
    simpa using congrArg List.reverse hnames
  · rintro ⟨before, n, after, rfl, htakes, hbinding, hafter⟩
    exact ⟨n, ⟨by simpa using htakes, after.reverse, before.reverse, by simp,
      by simpa using hafter⟩, hbinding⟩

theorem lastBinding?_eq_none_iff {i : Item} :
    lastBinding? api (i.packageNames options) = .none ↔ ¬ i.TakesExport options api.text := by
  simp [lastBinding?, Item.takesExport_iff]

theorem noteItem_eq (a : Aliases) (i : Item) :
    noteItem options a i = (i.packageNames options).foldl note a := by
  obtain ⟨span, leading, body⟩ := i
  cases body with
  | importing source typeOnly names =>
    cases typeOnly with
    | true => rfl
    | false =>
      cases hpackage : options.isPackage source <;> simp [noteItem, Item.packageNames, hpackage]
  | _ => rfl

/-- The table looked up from the end of the module. -/
theorem get_ofModule (options : Options) (m : List Item) (api : Api) :
    (ofModule options m).get api =
      m.reverse.findSome? fun i => lastBinding? api (i.packageNames options) := by
  have hrun : ∀ a : Aliases, (m.foldl (noteItem options) a).get api =
      (m.reverse.findSome? fun i => lastBinding? api (i.packageNames options)).or (a.get api) := by
    induction m with
    | nil => exact fun a => rfl
    | cons i m ih =>
      intro a
      rw [List.foldl_cons, ih, noteItem_eq, get_foldl_note, List.reverse_cons,
        List.findSome?_append, Option.or_assoc]
      simp
  have hnone : (Aliases.none).get api = Option.none := by cases api <;> rfl
  rw [ofModule, hrun, hnone, Option.or_none]

theorem get_ofModule_eq_some_iff :
    (ofModule options m).get api = some binding ↔
      ∃ n : ImportedName, n.IsLast options m api.text ∧ n.binding = binding := by
  rw [get_ofModule, List.findSome?_eq_some_iff]
  constructor
  · rintro ⟨later, i, earlier, hm, hlast, hlater⟩
    obtain ⟨before, n, after, hnames, htakes, hbinding, hafter⟩ := lastBinding?_eq_some_iff.mp hlast
    have himports : i.ImportsNames options (i.packageNames options) :=
      Item.importsNames_of_mem (n := n) (by simp [hnames])
    rw [hnames] at himports
    refine ⟨n, ⟨earlier.reverse, i, later.reverse, before, after,
      by simpa using congrArg List.reverse hm, himports, htakes, hafter, fun i' hi' => ?_⟩, hbinding⟩
    exact lastBinding?_eq_none_iff.mp (hlater i' (List.mem_reverse.mp hi'))
  · rintro ⟨n, ⟨earlier, i, later, before, after, rfl, himports, htakes, hafter, hlater⟩, hbinding⟩
    refine ⟨later.reverse, i, earlier.reverse, by simp, ?_, fun i' hi' => ?_⟩
    · rw [Item.packageNames_eq himports]
      exact lastBinding?_eq_some_iff.mpr ⟨before, n, after, rfl, htakes, hbinding, hafter⟩
    · exact lastBinding?_eq_none_iff.mpr (hlater i' (List.mem_reverse.mp hi'))

theorem get_ofModule_eq_none_iff :
    (ofModule options m).get api = .none ↔ ∀ i ∈ m, ¬ i.TakesExport options api.text := by
  simp only [get_ofModule, List.findSome?_eq_none_iff, List.mem_reverse, lastBinding?_eq_none_iff]

theorem get_ofModule_append (options : Options) (m₁ m₂ : List Item) (api : Api) :
    (ofModule options (m₁ ++ m₂)).get api =
      ((ofModule options m₂).get api).or ((ofModule options m₁).get api) := by
  simp only [get_ofModule, List.reverse_append, List.findSome?_append]

theorem ext_get {a b : Aliases} (h : ∀ api, a.get api = b.get api) : a = b := by
  obtain ⟨defineMeta, setTemplate, story⟩ := a
  obtain rfl : defineMeta = _ := h .defineMeta
  obtain rfl : setTemplate = _ := h .setTemplate
  obtain rfl : story = _ := h .story
  rfl

theorem ofModule_filter_isImport (options : Options) (m : List Item) :
    ofModule options (m.filter Item.isImport) = ofModule options m := by
  refine ext_get fun api => ?_
  rw [get_ofModule, get_ofModule, ← List.filter_reverse]
  induction m.reverse with
  | nil => rfl
  | cons i rest ih =>
    cases h : i.isImport with
    | true => rw [List.filter_cons_of_pos h, List.findSome?_cons, List.findSome?_cons, ih]
    | false =>
      have hnothing : lastBinding? api (i.packageNames options) = .none := by
        rw [Item.packageNames_of_not_isImport h]
        rfl
      rw [List.filter_cons_of_neg (by simp [h]), ih, List.findSome?_cons, hnothing]

/-- The table holds for each export the name that its last import binds. So the table of two modules
together is that of the second laid over that of the first, and only imports count. -/
theorem ofModule_exact (options : Options) :
    (∀ m api binding, (ofModule options m).get api = some binding ↔
      ∃ n : ImportedName, n.IsLast options m api.text ∧ n.binding = binding) ∧
    (∀ m api, (ofModule options m).get api = .none ↔ ∀ i ∈ m, ¬ i.TakesExport options api.text) ∧
    (∀ m₁ m₂ api, (ofModule options (m₁ ++ m₂)).get api =
      ((ofModule options m₂).get api).or ((ofModule options m₁).get api)) ∧
    ∀ m, ofModule options (m.filter Item.isImport) = ofModule options m :=
  ⟨fun _ _ _ => get_ofModule_eq_some_iff, fun _ _ => get_ofModule_eq_none_iff,
    get_ofModule_append options, ofModule_filter_isImport options⟩

-- The string names the export as the word before it did, and the type after it does not count.
example : (ofModule .standard
    [⟨default, [], .importing "@storybook/addon-svelte-csf".toList false
        [⟨.named .none, "defineMeta".toList, false⟩]⟩,
      ⟨default, [], .importing "../src/index.js".toList false
        [⟨.named (some (.string "defineMeta".toList)), "m".toList, false⟩,
          ⟨.named (some (.word "defineMeta".toList)), "t".toList, true⟩]⟩,
      ⟨default, [], .exportAll⟩]).get .defineMeta = some "m".toList := by
  decide

end Aliases

end StoryExports
