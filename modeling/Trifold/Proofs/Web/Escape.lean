import Trifold.Proofs.Text.Search
import Trifold.Web.Markup

namespace Trifold.Web

def specials : List Char := ['&', '<', '>', '"', '\'']

-- An escaped character where some kinds are undone already.
def escapedBut (undone : List Char) (c : Char) : List Char := if c ∈ undone then [c] else escapeChar c

theorem escapeChar_plain_char {c : Char} (plain : c ∉ specials) : escapeChar c = [c] := by
  unfold escapeChar
  split
  case h_6 => rfl
  all_goals exact absurd (by decide) plain

-- The second letter of an entity tells it from the others.
theorem entity_spelled : ∀ c ∈ specials, ∃ letter tail, escapeChar c = '&' :: letter :: tail ∧ '&' ∉ letter :: tail ∧
    ∀ d ∈ specials, (escapeChar d)[1]? = some letter → d = c := by
  intro c there
  simp only [specials,List.mem_cons,List.not_mem_nil,or_false] at there
  rcases there with rfl | rfl | rfl | rfl | rfl
  · exact ⟨'a',['m', 'p', ';'],rfl,by simp,by simp [specials,escapeChar]⟩
  · exact ⟨'l',['t', ';'],rfl,by simp,by simp [specials,escapeChar]⟩
  · exact ⟨'g',['t', ';'],rfl,by simp,by simp [specials,escapeChar]⟩
  · exact ⟨'q',['u', 'o', 't', ';'],rfl,by simp,by simp [specials,escapeChar]⟩
  · exact ⟨'#',['3', '9', ';'],rfl,by simp,by simp [specials,escapeChar]⟩

variable {undone : List Char} {d : Char}

theorem undo_one (special : d ∈ specials) (fresh : d ∉ undone) (last : '&' ∉ undone) (cs : List Char) :
    Text.replaceFrom (escapeChar d) [d] 0 (cs.flatMap (escapedBut undone)) = cs.flatMap (escapedBut (d :: undone)) := by
  obtain ⟨letter,tail,spelled,_,_⟩ := entity_spelled d special
  induction cs with
  | nil => rfl
  | cons c cs ih =>
    rw [List.flatMap_cons,List.flatMap_cons]
    by_cases same : c = d
    · subst same
      have before : escapedBut undone c = escapeChar c := if_neg fresh
      have after : escapedBut (c :: undone) c = [c] := if_pos List.mem_cons_self
      rw [before,after,Text.replaceFrom_hit (by simp [spelled]),ih]
    · have untouched : escapedBut (d :: undone) c = escapedBut undone c := by
        simp only [escapedBut,List.mem_cons,same,false_or]
      rw [untouched]
      by_cases whole : c ∈ specials ∧ c ∉ undone
      · obtain ⟨other,others,spelling,harmless,own⟩ := entity_spelled c whole.1
        have escaped : escapedBut undone c = '&' :: other :: others := (if_neg whole.2).trans spelling
        have apart : letter ≠ other := by
          intro equal
          exact same (own d special (by rw [spelled,equal]; rfl)).symm
        have missed : (escapeChar d).isPrefixOf
            ('&' :: (other :: others ++ cs.flatMap (escapedBut undone))) = false := by
          rw [spelled,List.isPrefixOf,List.cons_append,Text.not_prefix_of_head apart,Bool.and_false]
        rw [escaped,List.cons_append,Text.replaceFrom_missed missed,List.cons_append,← ih,spelled]
        exact congrArg _ (Text.replaceFrom_kept harmless _)
      · have plain : escapedBut undone c = [c] := by
          rw [escapedBut]
          split
          · rfl
          · rename_i waiting
            exact escapeChar_plain_char fun listed => whole ⟨listed,waiting⟩
        have harmless : '&' ∉ [c] := by
          intro there
          obtain rfl := List.mem_singleton.mp there
          exact whole ⟨by decide,last⟩
        rw [plain,← ih,spelled]
        exact Text.replaceFrom_kept harmless _

theorem undo_next {entity : String} (s : String) (spelled : entity.toList = escapeChar d) (special : d ∈ specials)
    (fresh : d ∉ undone) (last : '&' ∉ undone) :
    Text.replaceAll entity (String.singleton d) (String.ofList (s.toList.flatMap (escapedBut undone))) =
      String.ofList (s.toList.flatMap (escapedBut (d :: undone))) := by
  rw [Text.replaceAll,spelled,String.toList_ofList,String.toList_singleton]
  exact congrArg String.ofList (undo_one special fresh last s.toList)

def kinds : List Char := ['&', '>', '<', '\'', '"']

theorem mem_kinds : ∀ c ∈ specials, c ∈ kinds := by simp [specials,kinds]

theorem escapedBut_kinds (c : Char) : escapedBut kinds c = [c] := by
  rw [escapedBut]
  split
  · rfl
  · rename_i plain
    exact escapeChar_plain_char fun special => plain (mem_kinds c special)

theorem unescape_escape (s : String) : unescape (escape s) = s := by
  have start : escape s = String.ofList (s.toList.flatMap (escapedBut [])) := rfl
  have ended : s.toList.flatMap (escapedBut kinds) = s.toList := by
    rw [funext escapedBut_kinds]
    exact List.flatMap_singleton' _
  calc unescape (escape s)
    _ = String.ofList (s.toList.flatMap (escapedBut kinds)) := by
      rw [unescape,start]
      change Text.replaceAll "&amp;" (String.singleton '&') (Text.replaceAll "&gt;" (String.singleton '>')
        (Text.replaceAll "&lt;" (String.singleton '<') (Text.replaceAll "&#39;" (String.singleton '\'')
          (Text.replaceAll "&quot;" (String.singleton '"') _)))) = _
      rw [undo_next s rfl (by decide) (by decide) (by decide),undo_next s rfl (by decide) (by decide) (by decide),
        undo_next s rfl (by decide) (by decide) (by decide),undo_next s rfl (by decide) (by decide) (by decide),
        undo_next s rfl (by decide) (by decide) (by decide)]
      rfl
    _ = s := by rw [ended,String.ofList_toList]

end Trifold.Web
