import Trifold.Proofs.Web.Escape
import Trifold.Proofs.Web.WellFormed
import Trifold.Web.Handlers

namespace Trifold.Web
open Grammar

namespace Attribute

-- What is read back of an attribute: nothing where nothing was written.
def given? : Attribute → Option (String × String)
  | (_,none) => none
  | (name,some value) => if value.isEmpty then none else some (name,escape value)

end Attribute

namespace OpenTag

def of (name : String) (given : List Attribute) : OpenTag := ⟨name,given.filterMap Attribute.given?⟩

theorem attributeNames_spelled : ∀ name ∈ attributeNames, name.toList ≠ [] ∧
    ∀ c ∈ name.toList, isNameChar c = true ∧ Text.isBlank c = false := by
  simp [attributeNames,isNameChar,Text.isBlank,Text.isSmall]

theorem tagNames_spelled : ∀ name ∈ tagNames, name.toList ≠ [] ∧ ∀ c ∈ name.toList, Text.isSmall c = true := by
  simp [tagNames,Text.isSmall]

-- What is taken goes as far as a character that stops it.
theorem cut (p : Char → Bool) {body : List Char} (rest : List Char) (inside : ∀ c ∈ body, p c = true)
    (stopped : ∀ c ∈ rest.head?, p c = false) : (body ++ rest).takeWhile p = body ∧ (body ++ rest).dropWhile p = rest := by
  rw [List.takeWhile_append_of_pos inside,List.dropWhile_append_of_pos inside]
  cases rest with
  | nil => exact ⟨List.append_nil body,rfl⟩
  | cons c rest =>
    have stop : ¬p c = true := by simp [stopped c rfl]
    rw [List.takeWhile_cons_of_neg stop,List.dropWhile_cons_of_neg stop]
    exact ⟨List.append_nil body,rfl⟩

variable {name : String} {given : List Attribute} {value rest : List Char}

theorem attribute?_written (listed : name ∈ attributeNames) (unquoted : '"' ∉ value) (rest : List Char) :
    attribute? (' ' :: (name.toList ++ '=' :: '"' :: (value ++ '"' :: rest))) =
      some ((name,String.ofList value),rest) := by
  obtain ⟨nonempty,spelled⟩ := attributeNames_spelled name listed
  obtain ⟨c,letters,split⟩ := List.exists_cons_of_ne_nil nonempty
  have whole : String.ofList (c :: letters) = name := by rw [← split,String.ofList_toList]
  rw [split] at spelled ⊢
  have unquoted' : ∀ d ∈ value, (d != '"') = true := by
    rintro d there
    exact bne_iff_ne.mpr fun same => unquoted (same ▸ there)
  have space : ∀ d ∈ [' '], Text.isBlank d = true := by simp [Text.isBlank]
  obtain ⟨blank,named⟩ := cut Text.isBlank (c :: letters ++ '=' :: '"' :: (value ++ '"' :: rest)) space (by
    rintro _ ⟨⟩
    exact (spelled c List.mem_cons_self).2)
  obtain ⟨name_taken,name_left⟩ := cut isNameChar ('=' :: '"' :: (value ++ '"' :: rest))
    (fun d there => (spelled d there).1) (by rintro _ ⟨⟩; rfl)
  obtain ⟨value_taken,value_left⟩ := cut (· != '"') ('"' :: rest) unquoted' (by rintro _ ⟨⟩; rfl)
  change attribute? ([' '] ++ (c :: letters ++ '=' :: '"' :: (value ++ '"' :: rest))) = _
  simp only [attribute?,blank,named,name_taken,name_left,value_taken,value_left,whole]

theorem attributes_none (none : attribute? rest = none) : attributes rest = ([],rest) := by
  rw [attributes]
  split
  · rfl
  · rename_i read
    rw [none] at read
    cases read

theorem attributes_some {found : String × String} {cs : List Char} (read : attribute? cs = some (found,rest)) :
    attributes cs = (found :: (attributes rest).1,(attributes rest).2) := by
  rw [attributes]
  split
  · rename_i none
    rw [read] at none
    cases none
  · rename_i same
    rw [read] at same
    cases same
    rfl

theorem escape_unquoted (s : String) : '"' ∉ (escape s).toList :=
  fun there => (escape_plain s).undelimited '"' there (by decide)

theorem attributes_written (listed : ∀ pair ∈ given, pair.1 ∈ attributeNames) (ended : attribute? rest = none) :
    attributes ((Web.attributes given).toList ++ rest) = (given.filterMap Attribute.given?,rest) := by
  induction given with
  | nil => exact attributes_none ended
  | cons pair others ih =>
    obtain ⟨name,value⟩ := pair
    obtain ⟨here,later⟩ := List.forall_mem_cons.mp listed
    rw [Web.attributes,List.map_cons,join_cons,String.toList_append,List.append_assoc,List.filterMap_cons]
    change attributes ((Attribute.written (name,value)).toList ++ ((Web.attributes others).toList ++ rest)) = _
    cases value with
    | none => exact ih later
    | some value =>
      simp only [Attribute.written,Attribute.given?]
      split
      · exact ih later
      · have read := attribute?_written here (escape_unquoted value) ((Web.attributes others).toList ++ rest)
        rw [String.ofList_toList] at read
        simpa [ih later] using attributes_some read

theorem head_attributes (listed : ∀ pair ∈ given, pair.1 ∈ attributeNames)
    (stopped : ∀ c ∈ rest.head?, Text.isSmall c = false) :
    ∀ c ∈ ((Web.attributes given).toList ++ rest).head?, Text.isSmall c = false := by
  have shaped := attributes_named listed
  generalize (Web.attributes given).toList = written at shaped
  cases shaped with
  | nil => exact stopped
  | cons =>
    rintro _ ⟨⟩
    rfl

theorem read?_written {after : List Char} (tag : name ∈ tagNames) (listed : ∀ pair ∈ given, pair.1 ∈ attributeNames)
    (stopped : ∀ c ∈ rest.head?, Text.isSmall c = false) (ended : attribute? rest = none)
    (closes : closed? rest = some after) :
    read? (name.toList ++ ((Web.attributes given).toList ++ rest)) = some (of name given,after) := by
  obtain ⟨nonempty,small⟩ := tagNames_spelled name tag
  obtain ⟨taken,left⟩ := cut _ _ small (head_attributes listed stopped)
  rw [read?,taken,left,attributes_written listed ended]
  dsimp only
  split
  · contradiction
  · rw [closes,String.ofList_toList]
    rfl

-- The scan comes from one place to another and finds these tags on its way.
def Scans (cs : List Char) (found : List OpenTag) (rest : List Char) : Prop :=
  ∀ steps, cs.length ≤ steps → ∃ left, rest.length ≤ left ∧ scan steps cs = found ++ scan left rest

theorem Scans.refl (cs : List Char) : Scans cs [] cs := fun steps enough => ⟨steps,enough,rfl⟩

theorem Scans.trans {cs middle : List Char} {found more : List OpenTag} (first : Scans cs found middle)
    (second : Scans middle more rest) : Scans cs (found ++ more) rest := by
  intro steps enough
  obtain ⟨between,enough,begun⟩ := first steps enough
  obtain ⟨left,enough,gone⟩ := second between enough
  exact ⟨left,enough,by rw [begun,gone,List.append_assoc]⟩

theorem Scans.skip {c : Char} (other : c ≠ '<' ∨ read? rest = none) : Scans (c :: rest) [] rest := by
  intro steps enough
  obtain _ | steps := steps
  · cases enough
  · refine ⟨steps,Nat.le_of_succ_le_succ enough,?_⟩
    rw [scan]
    rcases other with plain | none
    · rw [if_neg plain]
      rfl
    · rw [none,ite_self]
      rfl

theorem Scans.plain {content : List Char} (plain : '<' ∉ content) (rest : List Char) : Scans (content ++ rest) [] rest := by
  induction content with
  | nil => exact .refl rest
  | cons c content ih =>
    rw [List.mem_cons,not_or] at plain
    exact .trans (.skip (.inl (Ne.symm plain.1))) (ih plain.2)

theorem Scans.tag {cs : List Char} {tag : OpenTag} (read : read? cs = some (tag,rest))
    (shorter : rest.length ≤ cs.length) : Scans ('<' :: cs) [tag] rest := by
  intro steps enough
  obtain _ | steps := steps
  · cases enough
  · refine ⟨steps,Nat.le_trans shorter (Nat.le_of_succ_le_succ enough),?_⟩
    rw [scan,if_pos rfl,read]
    rfl

theorem Scans.opening (tag : name ∈ tagNames) (listed : ∀ pair ∈ given, pair.1 ∈ attributeNames) :
    Scans ('<' :: (name.toList ++ ((Web.attributes given).toList ++ '>' :: rest))) [of name given] rest := by
  refine .tag (read?_written tag listed (by rintro _ ⟨⟩; rfl) rfl rfl) ?_
  simp only [List.length_append,List.length_cons]
  omega

theorem Scans.void (tag : name ∈ tagNames) (listed : ∀ pair ∈ given, pair.1 ∈ attributeNames) (rest : List Char) :
    Scans ('<' :: (name.toList ++ ((Web.attributes given).toList ++ ' ' :: '/' :: '>' :: rest))) [of name given] rest := by
  refine .tag (read?_written tag listed (by rintro _ ⟨⟩; rfl) rfl rfl) ?_
  simp only [List.length_append,List.length_cons]
  omega

theorem Scans.closing (tag : name ∈ tagNames) : Scans ('<' :: '/' :: (name.toList ++ '>' :: rest)) [] rest := by
  have small := (tagNames_spelled name tag).2
  have plain : '<' ∉ '/' :: (name.toList ++ ['>']) := by
    intro there
    simp only [List.mem_cons,List.mem_append,List.not_mem_nil,or_false] at there
    rcases there with slash | inside | close
    · cases slash
    · cases small _ inside
    · cases close
  have passed := Scans.plain plain rest
  rw [List.cons_append,List.append_assoc] at passed
  exact .trans (.skip (.inr rfl)) passed

end OpenTag

namespace Markup
open OpenTag

mutual
def tags : Markup → List OpenTag
  | text _ => []
  | element name given children => .of name given :: tagsAll children
  | void name given => [.of name given]
def tagsAll : List Markup → List OpenTag
  | [] => []
  | markup :: rest => tags markup ++ tagsAll rest
end

mutual
theorem written_scans : (markup : Markup) → markup.Named → (rest : List Char) →
    Scans (markup.written.toList ++ rest) markup.tags rest
  | .text content, _, rest => by
      rw [written,tags]
      exact .plain (fun there => (escape_plain content).undelimited '<' there (by decide)) rest
  | .element name given children, ⟨listed,pairs,inner⟩, rest => by
      have inside := writtenAll_scans children inner ('<' :: '/' :: (name.toList ++ '>' :: rest))
      have whole := (Scans.opening listed pairs).trans (inside.trans (.closing listed))
      simpa [written,wrap,tags] using whole
  | .void name given, ⟨listed,pairs⟩, rest => by
      have whole := Scans.void listed pairs rest
      simpa [written,wrapVoid,tags] using whole
theorem writtenAll_scans : (children : List Markup) → NamedAll children → (rest : List Char) →
    Scans ((writtenAll children).toList ++ rest) (tagsAll children) rest
  | [], _, rest => .refl rest
  | child :: others, ⟨here,later⟩, rest => by
      rw [writtenAll,tagsAll,String.toList_append,List.append_assoc]
      exact (written_scans child here _).trans (writtenAll_scans others later rest)
end

theorem all_written {markup : Markup} (named : markup.Named) : OpenTag.all markup.written = markup.tags := by
  have scans := written_scans markup named []
  rw [List.append_nil] at scans
  obtain ⟨left,_,scanned⟩ := scans markup.written.length (Nat.le_of_eq String.length_toList)
  cases left <;> simpa [OpenTag.all,scan] using scanned

end Markup

end Trifold.Web
