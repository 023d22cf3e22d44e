import Trifold.Proofs.Table.Layout
import Trifold.Proofs.Terminal.Captions

namespace Trifold.Terminal.Node
open Value
open List (Forall₂)

variable {host : Host} {node : Value} {gap between s : String} {words parts : List String} {each : List (List String)}

-- What is left of a text without its spaces and its line ends.
def ink (s : String) : String := String.ofList (s.toList.filter fun c => c ≠ ' ' ∧ c ≠ '\n')

theorem ink_append (s t : String) : ink (s ++ t) = ink s ++ ink t := by
  simp [ink]

theorem ink_repeated (blank : ink s = "") (n : Nat) : ink (Text.repeated n s) = "" := by
  rw [Text.repeated]
  induction n with
  | zero => rfl
  | succ n ih => rw [List.replicate_succ,String.join_cons,ink_append,blank,ih,String.append_empty]

theorem ink_intercalate (blank : ink gap = "") (parts : List String) :
    ink (gap.intercalate parts) = ink (String.join parts) := by
  induction parts with
  | nil => rfl
  | cons part rest ih =>
    cases rest with
    | nil => rw [String.intercalate_singleton,String.join_cons,String.join_nil,String.append_empty]
    | cons next rest =>
      rw [String.intercalate_cons_cons,String.join_cons,ink_append,ink_append,ink_append,blank,ih,String.append_empty]

theorem repeat?_blank {count : Float} (blank : ink s = "") (ended : Text.repeat? s count = .ok between) :
    ink between = "" := by
  rw [Text.repeat?] at ended
  cases counted : Text.count? count with
  | error cause =>
    rw [counted] at ended
    cases ended
  | ok n =>
    rw [counted] at ended
    change (if s.isEmpty then pure "" else if Text.lengthLimit < n * Text.unitLength s then throw Misuse.tooLong
      else pure (Text.repeated n s) : Except Misuse String) = .ok between at ended
    split at ended
    · cases ended
      rfl
    · split at ended
      · cases ended
      · cases ended
        exact ink_repeated blank n

theorem gap_blank {direction spacing : Value} (ended : Node.gap direction spacing host = .ok between) :
    ink between = "" := by
  have repeated {s : String} {count : Float} (blank : ink s = "")
      (ended : Ask.ofMisuse (Text.repeat? s count) host = .ok between) : ink between = "" := by
    cases counted : Text.repeat? s count with
    | error cause =>
      rw [Ask.ofMisuse,counted] at ended
      cases ended
    | ok r =>
      rw [Ask.ofMisuse,counted] at ended
      cases ended
      exact repeat?_blank blank counted
  rw [Node.gap] at ended
  split at ended
  · obtain ⟨count,_,ended⟩ := Ask.ok_of_bind ended
    exact repeated rfl ended
  · obtain ⟨more,_,ended⟩ := Ask.ok_of_bind ended
    obtain ⟨count,_,ended⟩ := Ask.ok_of_bind ended
    exact repeated rfl ended

-- A text that shows these words and nothing else, in their order.
structure Tells (s : String) (words : List String) : Prop where
  ink : ink s = ink (String.join words)
  empty : s = "" ↔ ∀ word ∈ words, word = ""

theorem tells_nothing : Tells "" [] := ⟨rfl,by simp⟩

theorem tells_word (word : String) : Tells word [word] := ⟨by simp,by simp⟩

theorem join_filled (parts : List String) : String.join (parts.filter (· ≠ "")) = String.join parts := by
  induction parts with
  | nil => rfl
  | cons part rest ih =>
    by_cases empty : part = ""
    · rw [List.filter_cons_of_neg (by simpa using empty),ih,empty,String.join_cons,String.empty_append]
    · rw [List.filter_cons_of_pos (by simpa using empty),String.join_cons,ih,String.join_cons]

theorem ink_each (tell : Forall₂ Tells parts each) : ink (String.join parts) = ink (String.join each.flatten) := by
  induction tell with
  | nil => rfl
  | cons here later ih =>
    rw [String.join_cons,ink_append,here.ink,ih,List.flatten_cons,String.join_append,ink_append]

theorem empty_each (tell : Forall₂ Tells parts each) :
    (∀ part ∈ parts, part = "") ↔ ∀ word ∈ each.flatten, word = "" := by
  induction tell with
  | nil => exact Iff.rfl
  | cons here later ih =>
    rw [List.flatten_cons,List.forall_mem_append,List.forall_mem_cons,here.empty,ih]

theorem intercalate_empty (filled : ∀ part ∈ parts, part ≠ "") : gap.intercalate parts = "" ↔ parts = [] := by
  cases parts with
  | nil => exact ⟨fun _ => rfl,fun _ => rfl⟩
  | cons part rest =>
    have here := filled part List.mem_cons_self
    cases rest with
    | nil => simpa using here
    | cons next rest => simp [String.intercalate_cons_cons,String.append_eq_empty_iff,here]

theorem tells_each (tell : Forall₂ Tells parts each) (blank : ink gap = "") :
    Tells (gap.intercalate (parts.filter (· ≠ ""))) each.flatten := by
  refine ⟨?_,?_⟩
  · rw [ink_intercalate blank,join_filled,ink_each tell]
  · have filled : ∀ part ∈ parts.filter (· ≠ ""), part ≠ "" := by
      intro part there
      exact of_decide_eq_true (List.mem_filter.mp there).2
    rw [intercalate_empty filled,List.filter_eq_nil_iff,← empty_each tell]
    simp

-- A node all of whose parts are nodes again. A stack may run either way and have any spacing.
inductive Tree : Value → Prop
  | text {node : Value} {word : String} (shaped : shape node = .text) (held : node.get "content" = text word) : Tree node
  | empty {node : Value} (shaped : shape node = .empty) : Tree node
  | wrapper {node inner : Value} (shaped : shape node = .wrapper) (held : node.get "node" = inner) (inside : Tree inner) :
      Tree node
  | stack {node : Value} {children : List Value} (shaped : shape node = .stack)
      (held : node.get "children" = list children) (inside : ∀ child ∈ children, Tree child) : Tree node

theorem there_of_shape (shaped : shape node ≠ .foreign) (host : Host) : there node host = .ok () := by
  cases node with
  | absent | null => exact absurd rfl shaped
  | _ => rfl

theorem isFilled_text (s : String) (host : Host) : isFilled (text s) host = .ok (decide (s ≠ "")) := by
  have counted : isFilled (text s) = isAbove (ofNat (Text.unitLength s)) (number 0) := rfl
  rw [counted]
  by_cases empty : s = ""
  · subst empty
    rfl
  · have some : Text.unitLength s ≠ 0 := by
      intro none
      exact empty (Text.unitsOf_injective (List.length_eq_zero_iff.mp none))
    rw [Table.isAbove_count some,decide_eq_true empty]
    rfl

theorem filled_texts (parts : List String) (host : Host) :
    (parts.map text).filterM isFilled host = .ok ((parts.filter (· ≠ "")).map text) := by
  have answered : ∀ part ∈ parts.map text, isFilled part host = .ok (decide (part.text? ≠ some "")) := by
    intro part there
    obtain ⟨s,_,rfl⟩ := List.mem_map.mp there
    rw [isFilled_text]
    simp [text?]
  rw [Ask.filterM_ok answered,List.filter_map]
  congr 3
  funext part
  simp [text?]

theorem itemTexts_texts (parts : List String) (host : Host) : itemTexts (parts.map text) host = .ok parts := by
  induction parts with
  | nil => rfl
  | cons part rest ih =>
    rw [List.map_cons,itemTexts.eq_def]
    dsimp only
    rw [Ask.bind_ok (show toText (text part) host = .ok part from rfl),Ask.bind_ok ih]
    rfl

theorem plain_stack {children : List Value} (shaped : shape node = .stack) (held : node.get "children" = list children) :
    plain node = do
      there node
      let filled ← (← plainParts children).filterM isFilled
      let gap ← Node.gap (node.get "direction") (node.get "spacing")
      return .text (gap.intercalate (← itemTexts filled)) := by
  rw [plain,shaped]
  dsimp only
  congr 1
  funext _
  split
  · rename_i found same
    rw [held] at same
    cases same
    rfl
  · rename_i unlisted
    exact (unlisted children held).elim

theorem plainParts_each {children shown : List Value} :
    plainParts children host = .ok shown ↔ Forall₂ (fun child part => plain child host = .ok part) children shown := by
  have each : plainParts children = children.mapM plain := by
    induction children with
    | nil => rw [plainParts,List.mapM_nil]
    | cons child rest ih => rw [plainParts,List.mapM_cons,ih]
  rw [each,Ask.mapM_ok]

theorem plain_laid {children : List Value} (shaped : shape node = .stack) (held : node.get "children" = list children)
    (parted : Forall₂ (fun child part => plain child host = .ok (text part)) children parts) :
    plain node host = (do
      let gap ← Node.gap (node.get "direction") (node.get "spacing")
      return text (gap.intercalate (parts.filter (· ≠ ""))) : Ask Value) host := by
  have parted : plainParts children host = .ok (parts.map text) :=
    plainParts_each.mpr (List.forall₂_map_right_iff.mpr parted)
  rw [plain_stack shaped held,Ask.bind_ok (there_of_shape (by simp [shaped]) host),Ask.bind_ok parted,
    Ask.bind_ok (filled_texts parts host)]
  cases between : Node.gap (node.get "direction") (node.get "spacing") host with
  | error fault => rw [Ask.bind_error between,Ask.bind_error between]
  | ok gap => rw [Ask.bind_ok between,Ask.bind_ok between,Ask.bind_ok (itemTexts_texts _ host)]

theorem parts_tell {children shown : List Value} (parted : Forall₂ (fun child part => plain child host = .ok part) children shown)
    (inside : ∀ child ∈ children, ∀ {part}, plain child host = .ok part →
      ∃ s words, part = text s ∧ Texts host child words ∧ Tells s words) :
    ∃ parts each, Forall₂ (fun child part => plain child host = .ok (text part)) children parts ∧
      Forall₂ (Texts host) children each ∧ Forall₂ Tells parts each := by
  induction parted with
  | nil => exact ⟨[],[],.nil,.nil,.nil⟩
  | cons first _ ih =>
    obtain ⟨here,later⟩ := List.forall_mem_cons.mp inside
    obtain ⟨s,words,rfl,texts,tells⟩ := here first
    obtain ⟨parts,each,laid,texts',tells'⟩ := ih later
    exact ⟨s :: parts,words :: each,.cons first laid,.cons texts texts',.cons tells tells'⟩

theorem plain_tells (tree : Tree node) {shown : Value} (ended : plain node host = .ok shown) :
    ∃ s words, shown = text s ∧ Texts host node words ∧ Tells s words := by
  induction tree generalizing shown with
  | @text node word shaped held =>
    have there : there node host = .ok () := there_of_shape (by simp [shaped]) host
    refine ⟨word,[word],?_,?_,tells_word word⟩
    · rw [plain,Ask.bind_ok there,shaped] at ended
      dsimp only at ended
      rw [held] at ended
      cases ended
      rfl
    · rw [Texts,texts,Ask.bind_ok there,shaped]
      dsimp only
      rw [held]
      rfl
  | @empty node shaped =>
    have there : there node host = .ok () := there_of_shape (by simp [shaped]) host
    refine ⟨"",[],?_,?_,tells_nothing⟩
    · rw [plain,Ask.bind_ok there,shaped] at ended
      cases ended
      rfl
    · rw [Texts,texts,Ask.bind_ok there,shaped]
      rfl
  | @wrapper node inner shaped held inside ih =>
    have there : there node host = .ok () := there_of_shape (by simp [shaped]) host
    rw [plain,Ask.bind_ok there,shaped] at ended
    dsimp only at ended
    rw [held] at ended
    split at ended
    · obtain ⟨s,words,told,texts,tells⟩ := ih ended
      exact ⟨s,words,told,texts_wrapper shaped there held texts,tells⟩
    · cases ended
  | @stack node children shaped held inside ih =>
    have there : there node host = .ok () := there_of_shape (by simp [shaped]) host
    have opened := ended
    rw [plain_stack shaped held,Ask.bind_ok there] at opened
    obtain ⟨all,parted,_⟩ := Ask.ok_of_bind opened
    obtain ⟨parts,each,laid,texts,tell⟩ := parts_tell (plainParts_each.mp parted) ih
    rw [plain_laid shaped held laid] at ended
    obtain ⟨gap,between,ended⟩ := Ask.ok_of_bind ended
    cases ended
    exact ⟨_,each.flatten,rfl,texts_stack shaped there held texts,tells_each tell (gap_blank between)⟩

-- Wherever the layout of a tree is there, its leaves have texts; it shows what is to be read in them, in their order, and it
-- is empty only where all of them are.
theorem plain_lossless (tree : Tree node) {shown : Value} (ended : plain node host = .ok shown) :
    ∃ s words, shown = text s ∧ texts node host = .ok (some (words.map text)) ∧ ink s = ink (String.join words) ∧
      (s = "" ↔ ∀ word ∈ words, word = "") := by
  obtain ⟨s,words,told,texts,tells⟩ := plain_tells tree ended
  exact ⟨s,words,told,texts,tells.ink,tells.empty⟩

-- A page of a title and, two blanks apart, a row with an empty text in it.
def row : Value :=
  stack "horizontal" [content (text "a b"), content (text ""), withTag (text "button") (content (text "[ OK ]")) (object [])] 2

def page : Value := stack "vertical" [withStyle (content (text "Title")) (object []), row, empty] 1

theorem page_tree : Tree page := by
  have leaf (word : String) : Tree (content (text word)) := .text rfl rfl
  have row : Tree row := by
    refine .stack rfl rfl ?_
    simp only [List.forall_mem_cons]
    exact ⟨leaf _,leaf _,.wrapper rfl rfl (leaf _),List.forall_mem_nil _⟩
  refine .stack rfl rfl ?_
  simp only [List.forall_mem_cons]
  exact ⟨.wrapper rfl rfl (leaf _),row,.empty rfl,List.forall_mem_nil _⟩

theorem page_plain : plain page Host.silent = .ok (text "Title\n\na b  [ OK ]") := by
  have leaf (word : String) : plain (content (text word)) Host.silent = .ok (text word) := by
    rw [plain]
    rfl
  have title : plain (withStyle (content (text "Title")) (object [])) Host.silent = .ok (text "Title") := by
    rw [plain]
    exact leaf "Title"
  have button : plain (withTag (text "button") (content (text "[ OK ]")) (object [])) Host.silent = .ok (text "[ OK ]") := by
    rw [plain]
    exact leaf "[ OK ]"
  have nothing : plain empty Host.silent = .ok (text "") := by
    rw [plain]
    rfl
  have row : plain row Host.silent = .ok (text "a b  [ OK ]") :=
    plain_laid rfl rfl (.cons (leaf "a b") (.cons (leaf "") (.cons button .nil)))
  exact plain_laid rfl rfl (.cons title (.cons row (.cons nothing .nil)))

theorem plain_lossless_page : Tree page ∧ plain page Host.silent = .ok (text "Title\n\na b  [ OK ]") ∧
    ∃ s words, text "Title\n\na b  [ OK ]" = text s ∧ texts page Host.silent = .ok (some (words.map text)) ∧
      ink s = ink (String.join words) ∧ (s = "" ↔ ∀ word ∈ words, word = "") :=
  ⟨page_tree,page_plain,plain_lossless page_tree page_plain⟩

end Trifold.Terminal.Node
