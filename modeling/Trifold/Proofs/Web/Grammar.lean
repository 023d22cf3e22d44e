import Trifold.Web.Markup

namespace Trifold.Web.Grammar

def tagNames : List String :=
  ["span", "button", "label", "input", "pre", "table", "thead", "tbody", "tr", "th", "td", "li", "nav", "div", "ul"]

def attributeNames : List String :=
  ["id", "name", "type", "value", "placeholder", "for", "form", "disabled", "style", "class", "role", "data-kind",
    "data-position", "data-trigger", "data-active-tab", "data-sort-key", "aria-selected", "aria-disabled",
    "aria-haspopup", "aria-expanded", "aria-labelledby", "data-on-click", "data-on-change", "data-on-submit",
    "data-on-sort", "data-on-row-select", "data-on-select", "data-on-toggle"]

def delimiters : List Char := ['<', '>', '"', '\'']

def entities : List (List Char) :=
  ["&amp;".toList, "&lt;".toList, "&gt;".toList, "&quot;".toList, "&#39;".toList]

-- No delimiter, and no ampersand but at the start of an entity.
structure Plain (content : List Char) : Prop where
  undelimited : ∀ c ∈ content, c ∉ delimiters
  ampersands : ∀ before after, content = before ++ '&' :: after → ∃ entity ∈ entities, entity <+: '&' :: after

inductive Attributes : List Char → Prop where
  | nil : Attributes []
  | cons {name : String} {value rest : List Char} (listed : name ∈ attributeNames) (plain : Plain value)
      (others : Attributes rest) :
      Attributes (' ' :: name.toList ++ '=' :: '"' :: value ++ '"' :: rest)

inductive WellFormed : List Char → Prop where
  | nil : WellFormed []
  | text {content rest : List Char} (plain : Plain content) (after : WellFormed rest) : WellFormed (content ++ rest)
  | element {name : String} {given inner rest : List Char} (listed : name ∈ tagNames) (named : Attributes given)
      (inside : WellFormed inner) (after : WellFormed rest) :
      WellFormed ('<' :: name.toList ++ given ++ '>' :: inner ++ '<' :: '/' :: name.toList ++ '>' :: rest)
  | void {name : String} {given rest : List Char} (listed : name ∈ tagNames) (named : Attributes given)
      (after : WellFormed rest) : WellFormed ('<' :: name.toList ++ given ++ ' ' :: '/' :: '>' :: rest)

theorem Plain.nil : Plain [] := by
  refine ⟨by simp,?_⟩
  intro before after same
  simp at same

theorem Plain.cons {c : Char} {rest : List Char} (harmless : c ∉ delimiters) (plain : c ≠ '&')
    (others : Plain rest) : Plain (c :: rest) := by
  refine ⟨?_,?_⟩
  · intro d there
    rcases List.mem_cons.mp there with rfl | later
    · exact harmless
    · exact others.undelimited d later
  · intro before after same
    cases before with
    | nil =>
      cases same
      exact absurd rfl plain
    | cons first before => exact others.ampersands before after (List.cons.inj same).2

-- The one ampersand of an entity is its first character.
theorem entity_shape : ∀ entity ∈ entities, entity.head? = some '&' ∧
    (entity.tail.all fun c => !delimiters.contains c && c != '&') = true := by decide

theorem Plain.entity {entity rest : List Char} (listed : entity ∈ entities) (others : Plain rest) :
    Plain (entity ++ rest) := by
  obtain ⟨first,harmless⟩ := entity_shape entity listed
  obtain ⟨tail,rfl⟩ := List.head?_eq_some_iff.mp first
  have plainTail : Plain (tail ++ rest) := by
    clear listed first
    induction tail with
    | nil => exact others
    | cons c tail ih =>
      rw [List.tail_cons,List.all_cons,Bool.and_eq_true,Bool.and_eq_true] at harmless
      obtain ⟨⟨undelimited,plain⟩,later⟩ := harmless
      exact .cons (by simpa using undelimited) (by simpa using plain) (ih later)
  refine ⟨?_,?_⟩
  · intro c there
    rcases List.mem_cons.mp there with rfl | later
    · decide
    · exact plainTail.undelimited c later
  · intro before after same
    cases before with
    | nil =>
      cases same
      exact ⟨_,listed,by simp⟩
    | cons first before => exact plainTail.ampersands before after (List.cons.inj same).2

theorem WellFormed.append {first second : List Char} (left : WellFormed first) (right : WellFormed second) :
    WellFormed (first ++ second) := by
  induction left with
  | nil => exact right
  | text plain _ ih => simpa using WellFormed.text plain ih
  | element listed named inside _ _ ih => simpa using WellFormed.element listed named inside ih
  | void listed named _ ih => simpa using WellFormed.void listed named ih

theorem WellFormed.ofPlain {content : List Char} (plain : Plain content) : WellFormed content := by
  simpa using WellFormed.text plain .nil

end Trifold.Web.Grammar
