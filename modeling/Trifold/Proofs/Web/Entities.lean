import Trifold.Proofs.Web.Escape
import Trifold.Proofs.Web.WellFormed

namespace Trifold.Web

-- A kind of entity: what a special character is written as.
structure Entity where
  written : String
  char : Char
  special : char ∈ specials
  spelled : written.toList = escapeChar char

namespace Entity

def undo (entity : Entity) (s : String) : String := Text.replaceAll entity.written (String.singleton entity.char) s

def undoAll (entities : List Entity) (s : String) : String := entities.foldl (fun s entity => entity.undo s) s

-- An ampersand that is there before the last step could make an entity with what follows it.
def Before (entity later : Entity) : Prop := entity.char ≠ later.char ∧ entity.char ≠ '&'

def all : List Entity :=
  [⟨"&quot;",'"',by decide,rfl⟩, ⟨"&#39;",'\'',by decide,rfl⟩, ⟨"&lt;",'<',by decide,rfl⟩, ⟨"&gt;",'>',by decide,rfl⟩,
    ⟨"&amp;",'&',by decide,rfl⟩]

theorem all_ordered : all.Pairwise Before := by simp [all,Before]

theorem unescape_undoAll (s : String) : unescape s = undoAll all s := rfl

end Entity

-- A text in which all kinds but these are escaped.
def escapeBut (undone : List Char) (s : String) : String := String.ofList (s.toList.flatMap (escapedBut undone))

theorem escapeBut_none (s : String) : escapeBut [] s = escape s := rfl

theorem escapeBut_congr {undone undone' : List Char} (same : ∀ c, c ∈ undone ↔ c ∈ undone') (s : String) :
    escapeBut undone s = escapeBut undone' s := by
  have each : escapedBut undone = escapedBut undone' := by
    funext c
    simp only [escapedBut,same]
  rw [escapeBut,each,escapeBut]

open Web.Entity

theorem undo_escapeBut {undone : List Char} (entity : Entity) (fresh : entity.char ∉ undone) (last : '&' ∉ undone)
    (s : String) : entity.undo (escapeBut undone s) = escapeBut (entity.char :: undone) s :=
  undo_next s entity.spelled entity.special fresh last

-- Induction on the kinds that are left. Those undone so far are other kinds, and the ampersand is not among them.
theorem undoAll_escapeBut {entities : List Entity} {undone : List Char} (ordered : entities.Pairwise Before)
    (apart : ∀ entity ∈ entities, entity.char ∉ undone ∧ '&' ∉ undone) (s : String) :
    undoAll entities (escapeBut undone s) = escapeBut ((entities.map Entity.char).reverse ++ undone) s := by
  induction entities generalizing undone with
  | nil => rfl
  | cons entity rest ih =>
    obtain ⟨first,others⟩ := List.pairwise_cons.mp ordered
    obtain ⟨⟨fresh,last⟩,later⟩ := List.forall_mem_cons.mp apart
    have still : ∀ other ∈ rest, other.char ∉ entity.char :: undone ∧ '&' ∉ entity.char :: undone := by
      intro other there
      obtain ⟨different,harmless⟩ := first other there
      simp only [List.mem_cons,not_or]
      exact ⟨⟨different.symm,(later other there).1⟩,harmless.symm,last⟩
    calc undoAll (entity :: rest) (escapeBut undone s)
      _ = undoAll rest (escapeBut (entity.char :: undone) s) := by
        rw [undoAll,List.foldl_cons,undo_escapeBut entity fresh last]
        rfl
      _ = escapeBut ((rest.map Entity.char).reverse ++ entity.char :: undone) s := ih others still
      _ = escapeBut (((entity :: rest).map Entity.char).reverse ++ undone) s := by simp

theorem undoAll_escape {entities : List Entity} (ordered : entities.Pairwise Before) (s : String) :
    undoAll entities (escape s) = escapeBut (entities.map Entity.char) s := by
  rw [← escapeBut_none,undoAll_escapeBut ordered (by simp)]
  apply escapeBut_congr
  simp

-- After any number of steps the text is escaped but for the kinds undone so far, and after all of them it is the text. So
-- no two texts are escaped alike, and none keeps a character that delimits.
theorem escape_reversible :
    (∀ s n, undoAll (all.take n) (escape s) = escapeBut ((all.take n).map Entity.char) s) ∧
    (∀ s, unescape s = undoAll all s) ∧ (∀ s, unescape (escape s) = s) ∧ Function.Injective escape ∧
    ∀ s, '<' ∉ (escape s).toList ∧ '>' ∉ (escape s).toList ∧ '"' ∉ (escape s).toList ∧ '\'' ∉ (escape s).toList := by
  have undelimited (s : String) {c : Char} (delimits : c ∈ Grammar.delimiters) : c ∉ (escape s).toList :=
    fun there => (escape_plain s).undelimited c there delimits
  refine ⟨?_,unescape_undoAll,unescape_escape,Function.LeftInverse.injective unescape_escape,?_⟩
  · intro s n
    exact undoAll_escape (all_ordered.sublist (List.take_sublist n all)) s
  · intro s
    exact ⟨undelimited s (by decide),undelimited s (by decide),undelimited s (by decide),undelimited s (by decide)⟩

-- A text that holds entities already.
example : unescape (escape "&amp;lt; &quot;<'") = "&amp;lt; &quot;<'" := by decide +kernel

end Trifold.Web
