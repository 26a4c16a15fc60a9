import StoryExports.Proofs.ParsedObjects
import StoryExports.Proofs.PatchedLists

/-!
# Reading rendered entries

Entries that are rendered between braces are an object literal, and its outline tells the same
entries: the keys of each level in their order, and the texts at the ends. This holds for any keys,
also for words of the language, and for any texts.
-/
namespace StoryExports

open Script Script.Parse
open Json (quote)

/-- All values at the ends of the tree are quoted texts. -/
inductive NewValue.Quoted : NewValue → Prop
  | literal (t : Text) : Quoted (.literal (quote t))
  | object {entries : List (Text × NewValue)} (h : ∀ e ∈ entries, Quoted e.2) :
    Quoted (.object entries)

mutual

/-- The value that an outline tells of, if it tells all of it. -/
def PropertyValue.toNew? : PropertyValue → Option NewValue
  | .object _ properties => (toEntries? properties).map .object
  | .string t => some (.literal (quote t))
  | .other => none

def toEntries? : List (Property PropertyValue) → Option (List (Text × NewValue))
  | [] => some []
  | ⟨some key, _, value⟩ :: properties => do
    return (key, ← value.toNew?) :: (← toEntries? properties)
  | ⟨none, _, _⟩ :: _ => none

end

namespace NewValue

/-! ### Texts -/

/-- A value as it is written in code. -/
def code : NewValue → Text
  | .literal code => code
  | .object entries => "\x7b ".toList ++ render entries ++ " \x7d".toList

theorem renderEntry_eq (key : Text) (value : NewValue) :
    renderEntry (key, value) = writeKey key ++ ": ".toList ++ value.code := by
  have hopen : ": \x7b ".toList = ": ".toList ++ "\x7b ".toList := rfl
  cases value with
  | literal code =>
    unfold renderEntry
    rfl
  | object entries =>
    unfold renderEntry
    rw [hopen, code]
    simp only [List.append_assoc]

/-- The kind of token that a key is written as. -/
def keyTok (key : Text) : Tok :=
  if Name.isIdentifier key then .ofWord key else .string key

theorem isKey_keyTok (key : Text) : IsKey key (keyTok key) := by
  unfold keyTok
  split
  · exact .inl rfl
  · exact .inr rfl

theorem writes_entry (key : Text) {value : NewValue} {toks : List Tok}
    (h : Writes value.code toks) :
    Writes (renderEntry (key, value)) (keyTok key :: .punct .colon :: toks) := by
  have hcolon : ": ".toList = [':', ' '] := rfl
  intro rest more hrest
  have hvalue : Written (':' :: ' ' :: (value.code ++ rest)) (.punct .colon :: (toks ++ more)) :=
    .lone (by decide) <| .gap rfl <| h rest more hrest
  rw [renderEntry_eq, hcolon]
  simp only [List.append_assoc, List.cons_append, List.nil_append]
  unfold writeKey keyTok
  split
  · rename_i hkey
    exact hvalue.word (isPlainWord_of_isIdentifier hkey) rfl rfl
  · exact hvalue.quoted key

/-- The tokens of an entry whose value has these tokens. -/
def entryToks (f : Text × NewValue → List Tok) (e : Text × NewValue) : List Tok :=
  keyTok e.1 :: .punct .colon :: f e

theorem writes_object {entries : List (Text × NewValue)} {f : Text × NewValue → List Tok}
    (h : ∀ e ∈ entries, Writes e.2.code (f e)) :
    Writes (NewValue.object entries).code
      (.punct .lbrace :: listed (entryToks f) .rbrace entries) := by
  have hopen : "\x7b ".toList = ['\x7b', ' '] := rfl
  have hclose : " \x7d".toList = [' ', '\x7d'] := rfl
  intro rest more hrest
  have hend : Written (' ' :: '\x7d' :: rest) (.punct .rbrace :: more) :=
    .gap rfl <| .lone (by decide) hrest
  have hentries := written_listed (entryToks f) .rbrace
    (fun e he => writes_entry e.1 (h e he)) hend
  rw [code, hopen, hclose, render_eq_join]
  simp only [List.append_assoc, List.cons_append, List.nil_append]
  exact .lone (by decide) <| .gap rfl hentries

/-! ### Values -/

/-- The code of a value has these tokens, and they are read as the value. -/
structure ReadsBack (value : NewValue) (toks : List Tok) : Prop where
  writes : Writes value.code toks
  balanced : Balanced toks
  reads : ∀ n s, toks.length ≤ n → ReadsAs ((Grammar.nested n).assign s) toks
    fun node => (PropertyValue.ofNode node).toNew? = some value

theorem readsBack_literal (t : Text) : ReadsBack (.literal (quote t)) [.string t] := by
  refine ⟨fun _ _ h => h.quoted t, balanced_nil.cons rfl, fun n s hn => ?_⟩
  obtain ⟨n, rfl⟩ : ∃ m, n = m + 1 := Nat.exists_eq_add_of_le' hn
  refine (readsAs_string (.nested n) s t).mono ?_
  rintro _ ⟨span, rfl⟩
  rfl

theorem toEntries?_of_members {entries : List (Text × NewValue)} {members : List Node}
    (h : List.Forall₂ (fun e node => ∃ span value, node = .member span .pair (some e.1) [value] ∧
      (PropertyValue.ofNode value).toNew? = some e.2) entries members) :
    toEntries? (propertiesOf members) = some entries := by
  induction h with
  | nil => rfl
  | cons hmember _ ih =>
    obtain ⟨span, value, rfl, hvalue⟩ := hmember
    simp [propertiesOf, propertyOf, lastValue, toEntries?, hvalue, ih]

theorem readsBack_object {entries : List (Text × NewValue)} {f : Text × NewValue → List Tok}
    (h : ∀ e ∈ entries, ReadsBack e.2 (f e)) :
    ReadsBack (.object entries) (.punct .lbrace :: listed (entryToks f) .rbrace entries) := by
  refine ⟨writes_object fun e he => (h e he).writes, .listed fun e he => ?_, fun n s hn => ?_⟩
  · exact .cons (isKey_keyTok e.1).isPlain (.cons rfl (h e he).balanced)
  · obtain ⟨n, rfl⟩ : ∃ m, n = m + 1 := Nat.exists_eq_add_of_le' (Nat.one_le_of_lt hn)
    have hmember : ∀ e ∈ entries, ReadsAs (objectMember (.nested n) s.inner) (entryToks f e)
        fun node => ∃ span value, node = .member span .pair (some e.1) [value] ∧
          (PropertyValue.ofNode value).toNew? = some e.2 := by
      intro e he
      have hlen : (f e).length ≤ n := by
        have hmem := length_le_listed_of_mem (entryToks f) .rbrace he
        simp only [entryToks, List.length_cons] at hmem hn
        omega
      exact readsAs_member (isKey_keyTok e.1) ((h e he).reads n s.inner hlen)
    refine (readsAs_object hmember).mono ?_
    rintro _ ⟨span, members, rfl, hmembers⟩
    simp [PropertyValue.ofNode, PropertyValue.toNew?, toEntries?_of_members hmembers]

theorem Quoted.exists_readsBack {value : NewValue} (h : value.Quoted) :
    ∃ toks, ReadsBack value toks := by
  induction h with
  | literal t => exact ⟨_, readsBack_literal t⟩
  | object _ ih =>
    choose! f hf using ih
    exact ⟨_, readsBack_object hf⟩

theorem exists_outline {node : Node} {entries : List (Text × NewValue)}
    (h : (PropertyValue.ofNode node).toNew? = some (.object entries)) :
    ∃ o, Outline.ofNode? node = some o ∧ toEntries? o.properties = some entries := by
  cases node with
  | object span members =>
    refine ⟨_, rfl, ?_⟩
    simpa [PropertyValue.ofNode, PropertyValue.toNew?] using h
  | _ => simp [PropertyValue.ofNode, PropertyValue.toNew?] at h

/-- A statement that is nothing but a value in parentheses. -/
def Encloses (value : NewValue) (body : ItemBody) : Prop :=
  ∃ span place node, body = .statement (.other span .expression [.other place .paren [node]]) ∧
    (PropertyValue.ofNode node).toNew? = some value

theorem readsItems_paren {value : NewValue} {toks : List Tok} {g : Grammar} {s : Scope}
    (hbalanced : Balanced toks) (h : ∀ s, ReadsAs (g.assign s) toks
      fun node => (PropertyValue.ofNode node).toNew? = some value) :
    ReadsItems g.step.step s [.punct .lparen :: (toks ++ [.punct .rparen])] [Encloses value] := by
  refine .cons ⟨_, _, rfl, by simp⟩ (.item_statement (by simp) ?_) .nil
  refine (takes_parenStatement (readsAs_paren hbalanced (h _))).mono ?_
  rintro _ ⟨span, _, rfl, place, node, rfl, hnode⟩
  exact ⟨span, place, node, rfl, hnode⟩

/-- Rendered entries in braces and parentheses are read as one object literal, and its outline tells
the entries again. -/
theorem parse_render {entries : List (Text × NewValue)} (h : ∀ e ∈ entries, e.2.Quoted)
    (language : Language) :
    ∃ item span place node o,
      parseModule language ("(\x7b ".toList ++ render entries ++ " \x7d)".toList) = some [item] ∧
      item.body = .statement (.other span .expression [.other place .paren [node]]) ∧
      Outline.ofNode? node = some o ∧ toEntries? o.properties = some entries := by
  obtain ⟨toks, hwrites, hbalanced, hreads⟩ := (Quoted.object h).exists_readsBack
  have htext : "(\x7b ".toList ++ render entries ++ " \x7d)".toList =
      '(' :: ((NewValue.object entries).code ++ [')']) := by
    have hopen : "(\x7b ".toList = '(' :: "\x7b ".toList := rfl
    have hclose : " \x7d)".toList = " \x7d".toList ++ [')'] := rfl
    rw [hopen, hclose, code]
    simp only [List.append_assoc, List.cons_append]
  have hwritten : Written ('(' :: ((NewValue.object entries).code ++ [')']))
      [.punct .lparen :: (toks ++ [.punct .rparen])].flatten := by
    rw [List.flatten_singleton]
    exact .lone (by decide) <| hwrites _ _ <| .lone (by decide) <| .stop rfl
  obtain ⟨m, hparse, hm⟩ := parseModule_of_readsItems (by decide) (by decide) hwritten language
    fun n hn => readsItems_paren hbalanced fun s => hreads (3 * n + 1) s (by
      simp only [List.flatten_singleton, List.length_cons, List.length_append] at hn
      omega)
  obtain ⟨item, _, ⟨span, place, node, hbody, hnode⟩, hnil, rfl⟩ := List.forall₂_cons_left_iff.mp hm
  obtain rfl := List.forall₂_nil_left_iff.mp hnil
  obtain ⟨o, ho, hentries⟩ := exists_outline hnode
  exact ⟨item, span, place, node, o, htext ▸ hparse, hbody, ho, hentries⟩

/-- Keys that are words of the language, and a text that looks like code. -/
def contextualEntries : List (Text × NewValue) :=
  [("get".toList, .literal (quote "a\", b: \x7b".toList)), ("a b".toList, .object
    [("default".toList, .literal (quote "\n".toList)), ("async".toList, .literal (quote []))])]

theorem parse_contextualEntries : ∃ item span place node o,
    parseModule .javaScript ("(\x7b ".toList ++ render contextualEntries ++ " \x7d)".toList) =
      some [item] ∧
    item.body = .statement (.other span .expression [.other place .paren [node]]) ∧
    Outline.ofNode? node = some o ∧ toEntries? o.properties = some contextualEntries := by
  refine parse_render ?_ .javaScript
  simp only [contextualEntries, List.forall_mem_cons]
  exact ⟨.literal _, .object (by
    simp only [List.forall_mem_cons]
    exact ⟨.literal _, .literal _, by simp⟩), by simp⟩

end NewValue

end StoryExports
