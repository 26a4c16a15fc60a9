import StoryExports.Proofs.Identifiers
import StoryExports.Proofs.Redeclaration

/-!
# The names of the stories

Each element of the template with the name of stories gives one name, in the order of the
template. All names can be declared, they differ, and none is a name that the exports need
themselves. The appendix declares each of them once and lists them in that order.
-/
namespace StoryExports

theorem Text.startsWith_append (t u : Text) : (t ++ u).startsWith t = true := by
  induction t with
  | nil => cases u <;> rfl
  | cons c t ih => simpa [Text.startsWith, Text.stripStart?] using ih

namespace Name

/-- No character of a name needs an escape. -/
theorem escapeChar_of_isNamePart {c : Char} (h : isNamePart c = true) :
    Json.escapeChar c = [c] := by
  have hquote : c ≠ '"' := by rintro rfl; exact absurd h (by decide)
  have hslash : c ≠ '\\' := by rintro rfl; exact absurd h (by decide)
  have hprinted : ¬c.toNat < 0x20 := by
    intro hlt
    simp only [isNamePart, isAsciiLetter, isAsciiDigit, Bool.or_eq_true, Bool.and_eq_true,
      decide_eq_true_eq, beq_iff_eq, Char.le_def, UInt32.le_iff_toNat_le] at h
    rcases h with ((h | h) | rfl) | rfl
    · have hletter : 65 ≤ c.val.toNat := h.elim (fun h => Nat.le_trans (by decide) h.1) (·.1)
      exact absurd hlt (Nat.not_lt.mpr (Nat.le_trans (by decide) hletter))
    · exact absurd hlt (Nat.not_lt.mpr (Nat.le_trans (by decide) h.1))
    · exact absurd hlt (by decide)
    · exact absurd hlt (by decide)
  simp only [Json.escapeChar, hquote, hslash, hprinted, if_false]

/-- A name between quotes. -/
def quoted (name : Text) : Text := '"' :: name ++ ['"']

theorem quote_of_isBindable {name : Text} (h : isBindable name = true) :
    Json.quote name = quoted name := by
  have hparts := isNamePart_of_isIdentifier (Bool.and_eq_true_iff.mp h).1
  have hplain : name.flatMap Json.escapeChar = name.flatMap fun c => [c] :=
    List.flatMap_congr fun c hc => escapeChar_of_isNamePart (hparts c hc)
  rw [Json.quote, hplain, List.flatMap_singleton', quoted]

end Name

namespace Story

/-- The elements with the name of stories at the top of a template. -/
def storyElements (storyName : Text) (nodes : List Template.Node) : List Template.Component :=
  nodes.filterMap fun
    | .component c => if c.name = storyName then some c else none
    | _ => none

/-- An element gives a name: that of its attribute, or else the one made from its title. -/
def Exports (c : Template.Component) (exportName : Text) : Prop :=
  ∃ title, staticAttribute c "name".toList = .ok title ∧ exportNameOf c title = .ok exportName

theorem exports_of_readStory {c : Template.Component} {source : Text} {comment : Option Note}
    {story : TemplateStory} (h : readStory c source comment = .ok story) :
    Exports c story.exportName ∧ Name.isBindable story.exportName = true := by
  obtain ⟨title, htitle, h⟩ := bind_eq_ok h
  obtain ⟨exportName, hexport, h⟩ := bind_eq_ok h
  split at h
  · cases h
  · rename_i hbindable
    obtain ⟨code, -, h⟩ := bind_eq_ok h
    cases h
    exact ⟨⟨title, htitle, hexport⟩, by simpa using hbindable⟩

/-- The stories of a template are those of its elements, one by one. -/
theorem exports_of_readStories {storyName source : Text} {pending : Option Note}
    {taken : List Text} {nodes : List Template.Node} {stories : List TemplateStory}
    (h : readStories storyName source pending taken nodes = .ok stories) :
    List.Forall₂ Exports (storyElements storyName nodes) (stories.map (·.exportName)) ∧
      ∀ s ∈ stories, Name.isBindable s.exportName = true := by
  fun_induction readStories storyName source pending taken nodes generalizing stories with
  | case1 =>
    cases h
    exact ⟨.nil, fun s hs => absurd hs (List.not_mem_nil)⟩
  | case2 pending taken nodes c hname ih =>
    obtain ⟨story, hstory, h⟩ := bind_eq_ok h
    split at h
    · cases h
    · obtain ⟨rest, hrest, h⟩ := bind_eq_ok h
      cases h
      obtain ⟨hexports, hbindable⟩ := exports_of_readStory hstory
      obtain ⟨hall, hrest⟩ := ih story hrest
      refine ⟨?_, List.forall_mem_cons.mpr ⟨hbindable, hrest⟩⟩
      simpa [storyElements, hname] using List.Forall₂.cons hexports hall
  | case3 pending taken nodes c hname ih => simpa [storyElements, hname] using ih h
  | case4 pending taken nodes node hnode ih =>
    cases node with
    | component c => exact absurd rfl (hnode c)
    | _ => simpa [storyElements] using ih h

theorem exports_of_ofTemplate {options : Options} {root : Template.Root} {source file : Text}
    {template : TemplateStories} (h : ofTemplate options root source file = .ok template) :
    List.Forall₂ Exports (storyElements template.declared.storyName root.nodes)
        (template.stories.map (·.exportName)) ∧
      ∀ s ∈ template.stories, Name.isBindable s.exportName = true := by
  simp only [ofTemplate] at h
  repeat' split at h
  all_goals cases h
  rename_i hstories
  exact exports_of_readStories hstories

end Story

namespace Transform.Appendix

/-- How a line of the appendix that exports a constant begins. -/
def constant : Text := "export const ".toList

/-- The line that exports a story. -/
def storyExport (name : Text) : Text :=
  constant ++ name ++ (" = __stories[".toList ++ Name.quoted name ++ "];".toList)

/-- The line that exports the order of the stories. -/
def orderExport (names : List Text) : Text :=
  constant ++ "__namedExportsOrder = [".toList ++
    Text.join ", ".toList (names.map Name.quoted) ++ "];".toList

/-- The lines of the exports, the first one blank: what they need from the runtime, the meta as the
default, every story and then their order. -/
def exportLines (runtimeModule component metaName : Text) (names : List Text) : List Text :=
  [[], "import \x7b createRuntimeStories \x7d from ".toList ++ Json.quote runtimeModule ++ [';'],
    "const __stories = createRuntimeStories(".toList ++ component ++ ", ".toList ++ metaName ++
      ");".toList,
    "export default ".toList ++ metaName ++ [';']] ++
  names.map storyExport ++ [orderExport names]

theorem importLine_eq (a : Appendix) :
    a.importLine = "import \x7b createRuntimeStories \x7d from ".toList ++
      Json.quote a.runtimeModule ++ [';'] := by
  have hname : "import \x7b ".toList ++ runtimeFunction ++ " \x7d from ".toList =
    "import \x7b createRuntimeStories \x7d from ".toList := rfl
  unfold importLine
  rw [hname]

theorem storyLine_eq {name : Text} (h : Name.isBindable name = true) :
    storyLine name = storyExport name := by
  unfold storyLine storyExport
  rw [Name.quote_of_isBindable h, List.append_assoc, List.append_assoc, List.append_assoc]
  rfl

theorem orderLine_eq {a : Appendix} (h : ∀ n ∈ a.stories, Name.isBindable n = true) :
    a.orderLine = orderExport a.stories := by
  have hquoted : a.stories.map Json.quote = a.stories.map Name.quoted :=
    List.map_congr_left fun n hn => Name.quote_of_isBindable (h n hn)
  unfold orderLine orderExport
  rw [hquoted]
  rfl

theorem storyExport_startsWith (name : Text) : (storyExport name).startsWith constant = true := by
  simp only [storyExport, List.append_assoc]
  exact Text.startsWith_append _ _

theorem orderExport_startsWith (names : List Text) :
    (orderExport names).startsWith constant = true := by
  simp only [orderExport, List.append_assoc]
  exact Text.startsWith_append _ _

theorem lines_eq {a : Appendix} (h : ∀ n ∈ a.stories, Name.isBindable n = true) :
    a.lines = exportLines a.runtimeModule a.component a.metaName a.stories := by
  have hstories : a.stories.map storyLine = a.stories.map storyExport :=
    List.map_congr_left fun n hn => storyLine_eq (h n hn)
  have hdefault : a.defaultLine = "export default ".toList ++ a.metaName ++ [';'] := rfl
  unfold lines exportLines
  rw [orderLine_eq h, hstories, importLine_eq, runtimeLine_eq, hdefault]

/-- Every story and their order are exported, and no other constant. -/
theorem constants_of_exportLines (runtimeModule component metaName : Text) (names : List Text) :
    (exportLines runtimeModule component metaName names).filter (Text.startsWith · constant) =
      names.map storyExport ++ [orderExport names] := by
  have hkept : (names.map storyExport).filter (Text.startsWith · constant) =
      names.map storyExport := by
    refine List.filter_eq_self.mpr fun line hline => ?_
    obtain ⟨n, -, rfl⟩ := List.mem_map.mp hline
    exact storyExport_startsWith n
  have horder : [orderExport names].filter (Text.startsWith · constant) = [orderExport names] :=
    List.filter_eq_self.mpr (by simp [orderExport_startsWith])
  rw [exportLines, List.filter_append, List.filter_append, hkept, horder]
  rfl

end Transform.Appendix

namespace Plugin

open Story Transform

/-- A file with three stories. The second one has the name of its export written out. -/
def severalStories : Input where
  id := "Tab.stories.svelte".toList
  compiled := "const \x7bStory\x7d=defineMeta(\x7b\x7d);".toList ++
    "export default function A()\x7bStory(a,\x7bname:'One'\x7d);".toList ++
    "Story(a,\x7bname:'Two',exportName:'Deux'\x7d);".toList ++
    "Story(a,\x7bname:'Six'\x7d)\x7d".toList
  source := "<script module>const \x7bStory\x7d=defineMeta(\x7b\x7d)</script>".toList ++
    "<Story name='One'/><Story name='Two' exportName='Deux'/><Story name='Six'/>".toList
  preprocessor := none
  tree := "\x7b\"fragment\":\x7b\"nodes\":[".toList ++
    "\x7b\"type\":\"Component\",\"name\":\"Story\",\"start\":52,\"end\":71,".toList ++
    "\"attributes\":[\x7b\"type\":\"Attribute\",\"name\":\"name\",".toList ++
    "\"start\":59,\"end\":69,\"value\":[\x7b\"type\":\"Text\",\"data\":\"One\",".toList ++
    "\"start\":65,\"end\":68\x7d]\x7d]\x7d,".toList ++
    "\x7b\"type\":\"Component\",\"name\":\"Story\",\"start\":71,\"end\":108,".toList ++
    "\"attributes\":[\x7b\"type\":\"Attribute\",\"name\":\"name\",".toList ++
    "\"start\":78,\"end\":88,\"value\":[\x7b\"type\":\"Text\",\"data\":\"Two\",".toList ++
    "\"start\":84,\"end\":87\x7d]\x7d,\x7b\"type\":\"Attribute\",".toList ++
    "\"name\":\"exportName\",\"start\":89,\"end\":106,\"value\":[".toList ++
    "\x7b\"type\":\"Text\",\"data\":\"Deux\",\"start\":101,\"end\":105\x7d]\x7d]\x7d,".toList ++
    "\x7b\"type\":\"Component\",\"name\":\"Story\",\"start\":108,\"end\":127,".toList ++
    "\"attributes\":[\x7b\"type\":\"Attribute\",\"name\":\"name\",".toList ++
    "\"start\":115,\"end\":125,\"value\":[\x7b\"type\":\"Text\",\"data\":\"Six\",".toList ++
    "\"start\":121,\"end\":124\x7d]\x7d]\x7d]\x7d,".toList ++
    "\"module\":\x7b\"start\":0,\"end\":52,\"attributes\":[\x7b\"type\":\"Attribute\",".toList ++
    "\"name\":\"module\",\"start\":8,\"end\":14,\"value\":true\x7d]\x7d\x7d".toList
  unit := .byte

end Plugin

end StoryExports
