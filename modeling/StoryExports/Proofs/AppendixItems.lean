import StoryExports.Proofs.ParsedItems

/-!
# The items of the appendix

The appendix is a module of its own: an import, the stories made by it, the meta as the default,
an export for each story, and the order of the stories. Its text is written token by token, and
each line is read as one item. A name that is a word with a meaning elsewhere, as `async` or `of`,
changes nothing.
-/
namespace StoryExports.Script

mutual

/-- A tree without its places. -/
def Node.unplaced : Node → Node
  | .name _ id => .name default id
  | .string _ value => .string default value
  | .object _ members => .object default (unplacedAll members)
  | .objectPattern _ members => .objectPattern default (unplacedAll members)
  | .member _ form key parts => .member default form key (unplacedAll parts)
  | .call _ callee args => .call default callee.unplaced (unplacedAll args)
  | .function _ name params none => .function default name (unplacedAll params) none
  | .function _ name params (some body) =>
    .function default name (unplacedAll params) (some (unplacedAll body))
  | .classDef _ name none members => .classDef default name none (unplacedAll members)
  | .classDef _ name (some parent) members =>
    .classDef default name (some parent.unplaced) (unplacedAll members)
  | .other _ form parts => .other default form (unplacedAll parts)

def unplacedAll : List Node → List Node
  | [] => []
  | node :: nodes => node.unplaced :: unplacedAll nodes

end

def ItemBody.unplaced : ItemBody → ItemBody
  | .importing source typeOnly names => .importing source typeOnly names
  | .exportDeclaration node => .exportDeclaration node.unplaced
  | .exportNames names => .exportNames names
  | .exportDefault node => .exportDefault node.unplaced
  | .exportDefaultValue node => .exportDefaultValue node.unplaced
  | .exportAll => .exportAll
  | .typedModule => .typedModule
  | .statement node => .statement node.unplaced

theorem unplacedAll_eq_map {α : Type} {expected : α → Node} {xs : List α} {nodes : List Node}
    (h : List.Forall₂ (fun x node => node.unplaced = expected x) xs nodes) :
    unplacedAll nodes = xs.map expected := by
  induction h with
  | nil => rfl
  | cons hx _ ih => rw [unplacedAll, hx, ih, List.map_cons]

end StoryExports.Script

namespace StoryExports.Story

theorem ofCompiled_of_importsFrom {options : Options} {file : Text} {m : List Script.Item}
    (h : importsFrom options.runtimeModule m = true) :
    ofCompiled options m file = .error (.alreadyTransformed file) := by
  simp only [ofCompiled, h, if_true]
  rfl

end StoryExports.Story

namespace StoryExports.Transform.Appendix

open Json (quote)
open Script Script.Parse

/-- `const name = value`, without places. -/
def constantNode (name : Text) (value : Node) : Node :=
  .other default (.variables false) [.other default .declarator [.name default name, value]]

/-- What the lines of the appendix stand for, without places. -/
def bodies (a : Appendix) : List ItemBody :=
  [.importing a.runtimeModule false [⟨.named none, runtimeFunction, false⟩],
    .statement (constantNode storiesName (.call default (.name default runtimeFunction)
      [.name default a.component, .name default a.metaName])),
    .exportDefaultValue (.name default a.metaName)] ++
  a.stories.map (fun name => .exportDeclaration (constantNode name
    (.other default .access [.name default storiesName, .string default name]))) ++
  [.exportDeclaration (constantNode orderName
    (.other default .array (a.stories.map (.string default))))]

/-! ### Tokens -/

def constantToks (name : Text) (value : List Tok) : List Tok :=
  .keyword .kwConst :: .name name :: .punct .eq :: (value ++ [.punct .semicolon])

def importToks (a : Appendix) : List Tok :=
  [.keyword .kwImport, .punct .lbrace, .name runtimeFunction, .punct .rbrace, .name "from".toList,
    .string a.runtimeModule, .punct .semicolon]

def runtimeToks (a : Appendix) : List Tok :=
  constantToks storiesName (.name runtimeFunction :: .punct .lparen ::
    listed (fun name => [.name name]) .rparen [a.component, a.metaName])

def defaultToks (a : Appendix) : List Tok :=
  [.keyword .kwExport, .keyword .kwDefault, .name a.metaName, .punct .semicolon]

def storyToks (name : Text) : List Tok :=
  .keyword .kwExport :: constantToks name
    (.name storiesName :: .punct .lbracket :: ([.string name] ++ [.punct .rbracket]))

def orderToks (a : Appendix) : List Tok :=
  .keyword .kwExport :: constantToks orderName
    (.punct .lbracket :: listed (fun name => [.string name]) .rbracket a.stories)

/-- The tokens of the lines. The first line has none. -/
def lineToks (a : Appendix) : List (List Tok) :=
  [a.importToks, a.runtimeToks, a.defaultToks] ++ a.stories.map storyToks ++ [a.orderToks]

/-! ### Lines -/

theorem isBindable_names : Name.isBindable runtimeFunction = true ∧
    Name.isBindable storiesName = true ∧ Name.isBindable orderName = true ∧
    Name.isBindable "from".toList = true := by
  decide +kernel

theorem writes_importLine (a : Appendix) : Writes a.importLine a.importToks := by
  obtain ⟨hfunction, -, -, hfrom⟩ := isBindable_names
  intro rest more h
  rw [importLine_append]
  exact Written.word rfl rfl rfl <| .gap rfl <|
    .lone (by decide) <| .gap rfl <| .name hfunction rfl <| .gap rfl <| .lone (by decide) <|
    .gap rfl <| .name hfrom rfl <| .gap rfl <| .quoted a.runtimeModule <| .lone (by decide) h

theorem runtimeLine_append (a : Appendix) (rest : Text) :
    a.runtimeLine ++ rest = "const".toList ++ ' ' :: (storiesName ++ ' ' :: '=' :: ' ' ::
      (runtimeFunction ++ '(' :: (a.component ++ ',' :: ' ' ::
        (a.metaName ++ ')' :: ';' :: rest)))) := by
  have hconst : "const ".toList = "const".toList ++ [' '] := rfl
  have hequals : " = ".toList = [' ', '=', ' '] := rfl
  have hcomma : ", ".toList = [',', ' '] := rfl
  have hclose : ");".toList = [')', ';'] := rfl
  unfold runtimeLine
  rw [hconst, hequals, hcomma, hclose]
  simp only [List.append_assoc, List.cons_append, List.nil_append]

theorem writes_runtimeLine {a : Appendix} (hcomponent : Name.isBindable a.component = true)
    (hmeta : Name.isBindable a.metaName = true) : Writes a.runtimeLine a.runtimeToks := by
  obtain ⟨hfunction, hstories, -, -⟩ := isBindable_names
  intro rest more h
  rw [runtimeLine_append]
  exact Written.word rfl rfl rfl <| .gap rfl <|
    .name hstories rfl <| .gap rfl <| .equals <| .name hfunction rfl <| .lone (by decide) <|
    .name hcomponent rfl <| .lone (by decide) <| .gap rfl <| .name hmeta rfl <|
    .lone (by decide) <| .lone (by decide) h

theorem defaultLine_append (a : Appendix) (rest : Text) :
    a.defaultLine ++ rest =
      "export".toList ++ ' ' :: ("default".toList ++ ' ' :: (a.metaName ++ ';' :: rest)) := by
  have hexport : "export default ".toList = "export".toList ++ ' ' :: ("default".toList ++ [' ']) :=
    rfl
  unfold defaultLine
  rw [hexport]
  simp only [List.append_assoc, List.cons_append, List.nil_append]

theorem writes_defaultLine {a : Appendix} (hmeta : Name.isBindable a.metaName = true) :
    Writes a.defaultLine a.defaultToks := by
  intro rest more h
  rw [defaultLine_append]
  exact Written.word rfl rfl rfl <| .gap rfl <|
    Written.word rfl rfl rfl <| .gap rfl <|
    .name hmeta rfl <| .lone (by decide) h

/-- The start of an exported constant. -/
theorem written_exportConst {name t : Text} {toks : List Tok} (hname : Name.isBindable name = true)
    (h : Written t toks) :
    Written ("export const ".toList ++ (name ++ (" = ".toList ++ t)))
      (.keyword .kwExport :: .keyword .kwConst :: .name name :: .punct .eq :: toks) := by
  have hexport : "export const ".toList = "export".toList ++ ' ' :: ("const".toList ++ [' ']) := rfl
  have hequals : " = ".toList = [' ', '=', ' '] := rfl
  rw [hexport, hequals]
  simp only [List.append_assoc, List.cons_append, List.nil_append]
  exact Written.word rfl rfl rfl <| .gap rfl <|
    Written.word rfl rfl rfl <| .gap rfl <|
    .name hname rfl <| .gap rfl <| .equals h

theorem writes_storyLine {name : Text} (hname : Name.isBindable name = true) :
    Writes (storyLine name) (storyToks name) := by
  have hclose : "];".toList = [']', ';'] := rfl
  intro rest more h
  unfold storyLine
  rw [hclose]
  simp only [List.append_assoc, List.cons_append, List.nil_append]
  exact written_exportConst hname <| .name isBindable_names.2.1 rfl <| .lone (by decide) <|
    .quoted name <| .lone (by decide) <| .lone (by decide) h

theorem writes_orderLine (a : Appendix) : Writes a.orderLine a.orderToks := by
  have hopen : " = [".toList = " = ".toList ++ ['['] := rfl
  have hclose : "];".toList = [']', ';'] := rfl
  intro rest more h
  have hend : Written (']' :: ';' :: rest) (.punct .rbracket :: .punct .semicolon :: more) :=
    .lone (by decide) <| .lone (by decide) h
  have hnames := written_listed (fun name => [.string name]) .rbracket
    (fun name (_ : name ∈ a.stories) => fun _ _ => Written.quoted name) hend
  have hline := written_exportConst isBindable_names.2.2.1
    (hnames.lone (c := '[') (p := .lbracket) (by decide))
  unfold orderLine
  rw [hopen, hclose]
  simpa only [orderToks, constantToks, List.append_assoc, List.cons_append, List.nil_append]
    using hline

theorem written_lines {lines : List Text} {toks : List (List Tok)}
    (h : List.Forall₂ Writes lines toks) :
    Written (Text.join ['\n'] lines ++ ['\n']) toks.flatten := by
  induction h with
  | nil => exact .stop rfl
  | @cons line lineToks lines toks hline hlines ih =>
    cases hlines with
    | nil => simpa [Text.join] using hline ['\n'] [] (.stop rfl)
    | cons _ _ => simpa [Text.join] using hline _ _ (ih.gap (c := '\n') rfl)

/-- The text of the appendix, token by token. -/
theorem written_textAfter {a : Appendix} (hcomponent : Name.isBindable a.component = true)
    (hmeta : Name.isBindable a.metaName = true)
    (hstories : ∀ name ∈ a.stories, Name.isBindable name = true) (code : Text) :
    ∃ t, a.textAfter code = '\n' :: t ∧ Written (a.textAfter code) a.lineToks.flatten := by
  have hblank : Writes [] [] := fun rest more h => h
  have hexports : List.Forall₂ Writes (a.stories.map storyLine) (a.stories.map storyToks) := by
    rw [List.forall₂_map_left_iff, List.forall₂_map_right_iff, List.forall₂_same]
    exact fun name hname => writes_storyLine (hstories name hname)
  have hlines : List.Forall₂ Writes a.lines ([] :: a.lineToks) :=
    List.rel_append (.cons hblank (.cons (writes_importLine a) (.cons
      (writes_runtimeLine hcomponent hmeta) (.cons (writes_defaultLine hmeta) hexports))))
      (.cons (writes_orderLine a) .nil)
  have hwritten := written_lines hlines
  have hstart : ∃ t, Text.join ['\n'] a.lines ++ ['\n'] = '\n' :: t := by
    simp [lines, Text.join]
  obtain ⟨t, ht⟩ := hstart
  simp only [textAfter]
  split
  · exact ⟨t, ht, hwritten⟩
  · exact ⟨_, rfl, hwritten.gap rfl⟩

/-! ### Items -/

section Items

variable {g : Grammar} {s : Scope} {name : Text} {value : Node} {toks : List Tok}

/-- The content of an item is this one, up to its places. -/
def Means (expected body : ItemBody) : Prop := expected = body.unplaced

theorem map_eq_of_means {bodies : List ItemBody} {m : List Item}
    (h : List.Forall₂ (fun body i => Means body i.body) bodies m) :
    m.map (·.body.unplaced) = bodies := by
  induction h with
  | nil => rfl
  | cons hbody _ ih => rw [List.map_cons, ih, ← hbody]

theorem unplaced_of_isConstant {node : Node}
    (h : IsConstant name (fun node => node.unplaced = value) node) :
    node.unplaced = constantNode name value := by
  obtain ⟨span, part, place, value, rfl, rfl⟩ := h
  rfl

theorem readsAs_unplaced_name (g : Grammar) (s : Scope) (name : Text) :
    ReadsAs (g.step.assign s) [.name name] fun node => node.unplaced = .name default name :=
  (readsAs_name g s name).mono fun _ ⟨_, h⟩ => h ▸ rfl

theorem readsAs_unplaced_string (g : Grammar) (s : Scope) (v : Text) :
    ReadsAs (g.step.assign s) [.string v] fun node => node.unplaced = .string default v :=
  (readsAs_string g s v).mono fun _ ⟨_, h⟩ => h ▸ rfl

theorem readsItem_import (hs : s.typed = false) (a : Appendix) :
    ReadsItem g s a.importToks (Means
      (.importing a.runtimeModule false [⟨.named none, runtimeFunction, false⟩])) :=
  ⟨⟨_, _, rfl, by simp⟩, fun _ => .item_import <|
    (takes_importItem hs runtimeFunction a.runtimeModule).mono fun _ h => by subst h; rfl⟩

theorem readsItem_runtime (hs : s.typed = false) (a : Appendix) :
    ReadsItem g.step.step.step s a.runtimeToks (Means (.statement (constantNode storiesName
      (.call default (.name default runtimeFunction)
        [.name default a.component, .name default a.metaName])))) := by
  have hcall : ReadsAs (assignRule g.step s) (.name runtimeFunction :: .punct .lparen ::
      listed (fun name => [.name name]) .rparen [a.component, a.metaName]) fun node =>
        node.unplaced = .call default (.name default runtimeFunction)
          [.name default a.component, .name default a.metaName] := by
    refine (readsAs_call (by decide) fun name _ =>
      readsAs_unplaced_name g s.inner name).mono ?_
    rintro _ ⟨span, place, args, rfl, hargs⟩
    simp [Node.unplaced, unplacedAll_eq_map hargs]
  exact ⟨⟨_, _, rfl, by simp⟩, fun _ => .item_statement (by simp) <|
    (takes_constantStatement storiesName hs hcall).mono
      fun _ h => congrArg _ (unplaced_of_isConstant h).symm⟩

theorem readsItem_default (hs : s.typed = false) (a : Appendix) :
    ReadsItem g.step s a.defaultToks (Means (.exportDefaultValue (.name default a.metaName))) :=
  ⟨⟨_, _, rfl, by simp⟩, fun _ => .item_export <|
    (takes_exportDefault hs a.metaName).mono fun _ ⟨_, h⟩ => by subst h; rfl⟩

/-- An exported constant whose value can be read. -/
theorem readsItem_export (hs : s.typed = false) (name : Text)
    (h : ReadsAs (assignRule g s) toks fun node => node.unplaced = value) :
    ReadsItem g.step s (.keyword .kwExport :: constantToks name toks)
      (Means (.exportDeclaration (constantNode name value))) :=
  ⟨⟨_, _, rfl, by simp⟩, fun _ => .item_export <|
    (takes_exportConstant name hs h).mono fun _ ⟨_, hbody, hnode⟩ => by
      subst hbody
      exact congrArg _ (unplaced_of_isConstant hnode).symm⟩

theorem readsItem_story (hs : s.typed = false) (name : Text) :
    ReadsItem g.step.step s (storyToks name) (Means (.exportDeclaration (constantNode name
      (.other default .access [.name default storiesName, .string default name])))) := by
  refine readsItem_export hs name ((readsAs_access (by decide)
    (readsAs_unplaced_string g s.inner name)).mono ?_)
  rintro _ ⟨span, place, index, rfl, hindex⟩
  simp [Node.unplaced, unplacedAll, hindex]

theorem readsItem_order (hs : s.typed = false) (a : Appendix) :
    ReadsItem g.step.step s a.orderToks (Means (.exportDeclaration (constantNode orderName
      (.other default .array (a.stories.map (.string default)))))) := by
  refine readsItem_export hs orderName ((readsAs_array fun name _ =>
    readsAs_unplaced_string g s.inner name).mono ?_)
  rintro _ ⟨span, items, rfl, hitems⟩
  simp [Node.unplaced, unplacedAll_eq_map hitems]

theorem readsItems (hs : s.typed = false) (a : Appendix) :
    List.Forall₂ (ReadsItem g.step.step.step s) a.lineToks (a.bodies.map Means) := by
  have hexports : List.Forall₂ (ReadsItem g.step.step.step s) (a.stories.map storyToks)
      ((a.stories.map fun name => .exportDeclaration (constantNode name (.other default .access
        [.name default storiesName, .string default name]))).map Means) := by
    rw [List.map_map, List.forall₂_map_left_iff, List.forall₂_map_right_iff, List.forall₂_same]
    exact fun name _ => readsItem_story hs name
  rw [lineToks, bodies, List.map_append, List.map_append]
  exact List.rel_append (List.rel_append (.cons (readsItem_import hs a)
    (.cons (readsItem_runtime hs a) (.cons (readsItem_default hs a) .nil))) hexports)
    (.cons (readsItem_order hs a) .nil)

theorem length_lineToks (a : Appendix) : a.lineToks.length + 3 ≤ a.lineToks.flatten.length := by
  have hlines := readsItems (g := .empty) (s := .script false) rfl a
  generalize a.bodies.map Means = posts at hlines
  rw [show a.lineToks = a.importToks :: a.lineToks.tail from rfl] at hlines ⊢
  cases hlines with
  | cons _ hlines =>
    have hrest := (ReadsItems.of_forall₂ hlines).length_le_flatten
    have himport : a.importToks.length = 7 := rfl
    rw [List.flatten_cons, List.length_append, List.length_cons]
    omega

end Items

theorem defaultCount_eq (m : List Item) :
    Story.defaultCount m =
      ((m.map (·.body.unplaced)).map fun body => Story.defaultExports ⟨default, [], body⟩).sum := by
  have hbody : ∀ i : Item, Story.defaultExports ⟨default, [], i.body.unplaced⟩ =
      Story.defaultExports i := by
    rintro ⟨span, leading, body⟩
    cases body <;> rfl
  simp [Story.defaultCount, ← List.foldl_map, ← List.sum_eq_foldl, hbody, Function.comp_def]

theorem importsFrom_of_bodies {a : Appendix} {m : List Item}
    (h : m.map (·.body.unplaced) = a.bodies) : Story.importsFrom a.runtimeModule m = true := by
  obtain ⟨i, rest, rfl, hi, -⟩ := List.map_eq_cons_iff.mp h
  refine List.any_eq_true.mpr ⟨i, List.mem_cons_self, ?_⟩
  cases hbody : i.body <;> simp [hbody, ItemBody.unplaced] at hi
  simp [hi]

/-- The appendix is read as what it stands for, whatever it is appended to. The meta is its only
default, and a compiled module that consists of it is taken for one that was transformed already. -/
theorem parse_textAfter {a : Appendix} (hcomponent : Name.isBindable a.component = true)
    (hmeta : Name.isBindable a.metaName = true)
    (hstories : ∀ name ∈ a.stories, Name.isBindable name = true) (code : Text) :
    ∃ m, parseModule .javaScript (a.textAfter code) = some m ∧
      m.map (·.body.unplaced) = a.bodies ∧ Story.defaultCount m = 1 ∧
      ∀ options file, options.runtimeModule = a.runtimeModule →
        Story.ofCompiled options m file = .error (.alreadyTransformed file) := by
  obtain ⟨t, ht, hwritten⟩ := written_textAfter hcomponent hmeta hstories code
  rw [ht] at hwritten ⊢
  obtain ⟨m, hparse, hm⟩ := parseModule_of_readsItems (by decide) (by decide) hwritten .javaScript
    fun n _ => .of_forall₂ (readsItems rfl a)
  have hbodies := map_eq_of_means (List.forall₂_map_left_iff.mp hm)
  refine ⟨m, hparse, hbodies, ?_, fun options file hoptions => ?_⟩
  · rw [defaultCount_eq, hbodies]
    simp [bodies, Story.defaultExports, Function.comp_def]
  · exact Story.ofCompiled_of_importsFrom (hoptions ▸ importsFrom_of_bodies hbodies)

/-- Names that are words of the language in other places, and a source with quotes in it. -/
def contextual : Appendix :=
  ⟨"a\"\\\n".toList, "async".toList, "of".toList, ["get".toList, "from".toList]⟩

theorem parse_contextual :
    (∀ name ∈ contextual.taken ++ contextual.stories, Name.isBindable name = true) ∧
      ∃ m, parseModule .javaScript (contextual.textAfter []) = some m ∧
        m.map (·.body.unplaced) = contextual.bodies := by
  refine ⟨by decide +kernel, ?_⟩
  obtain ⟨m, hparse, hbodies, -⟩ := parse_textAfter (a := contextual) (by decide +kernel)
    (by decide +kernel) (by decide +kernel) []
  exact ⟨m, hparse, hbodies⟩

end StoryExports.Transform.Appendix
