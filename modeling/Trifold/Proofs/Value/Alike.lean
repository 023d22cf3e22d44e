import Trifold.Proofs.Agree
import Trifold.Proofs.Number.Zero
import Trifold.Proofs.Value.Same
import Trifold.Value.Items
import Trifold.Value.Json
import Trifold.Value.Numeric

namespace Trifold.Value

def isRecord : Value → Bool
  | record .. | heir .. | ancestor => true
  | _ => false

-- `level` is asked of any two records that stand side by side.
inductive Alike (level : Value → Value → Prop) : Value → Value → Prop
  | flat {value : Value} (flat : value.isHolder = false) : Alike level value value
  | number {x y : Float} (equal : Number.same x y = true) : Alike level (number x) (number y)
  | list {xs ys : List Value} (counted : xs.length = ys.length)
      (each : ∀ i (inside : i < xs.length) (inside' : i < ys.length), Alike level xs[i] ys[i]) :
      Alike level (list xs) (list ys)
  | record {a b : Value} (left : a.isRecord = true) (right : b.isRecord = true) (plain : a.isPlain = b.isPlain)
      (equal : same a b = true) (reads : ∀ key, Alike level (a.get key) (b.get key)) (here : level a b) :
      Alike level a b

variable {level : Value → Value → Prop} {a b : Value}

theorem alike_list {xs ys : List Value} (items : List.Forall₂ (Alike level) xs ys) :
    Alike level (.list xs) (.list ys) := by
  obtain ⟨counted,each⟩ := List.forall₂_iff_get.mp items
  exact .list counted fun i inside inside' => each i inside inside'

theorem fetch_there {value : Value} (there : value.isMissing = false) (key : String) :
    fetch key value = pure (value.get key) := by
  cases value <;> first | rfl | cases there

namespace Alike

theorem items {xs ys : List Value} (alike : Alike level (.list xs) (.list ys)) : List.Forall₂ (Alike level) xs ys := by
  cases alike with
  | flat flat => cases flat
  | list counted each => exact List.forall₂_iff_get.mpr ⟨counted,fun i inside inside' => each i inside inside'⟩
  | record left => cases left

theorem same (alike : Alike level a b) : same a b = true := by
  induction alike with
  | flat flat =>
    rename_i value
    rw [same_iff]
    cases value with
    | number x => exact .number (Number.same_refl x)
    | list | record | heir => cases flat
    | _ => constructor
  | number equal => exact same_iff.mpr (.number equal)
  | list counted each ih =>
    exact same_list.mpr (List.forall₂_iff_get.mpr ⟨counted,fun i inside inside' => ih i inside inside'⟩)
  | record left right plain equal => exact equal

-- What tells neither numbers, nor lists, nor records apart.
theorem blind {α : Type} (f : Value → α) (numbers : ∀ x y, f (.number x) = f (.number y))
    (lists : ∀ xs ys, f (.list xs) = f (.list ys)) (one : α) (records : ∀ a : Value, a.isRecord = true → f a = one)
    (alike : Alike level a b) : f a = f b := by
  cases alike with
  | flat => rfl
  | number => exact numbers _ _
  | list => exact lists _ _
  | record left right => exact (records a left).trans (records b right).symm

section

variable (alike : Alike level a b)
include alike

theorem isAbsent : a.isAbsent = b.isAbsent := by
  refine alike.blind _ (fun _ _ => rfl) (fun _ _ => rfl) false ?_
  intro a record
  cases a <;> cases record <;> rfl

theorem isMissing : a.isMissing = b.isMissing := by
  refine alike.blind _ (fun _ _ => rfl) (fun _ _ => rfl) false ?_
  intro a record
  cases a <;> cases record <;> rfl

theorem isObject : a.isObject = b.isObject := by
  refine alike.blind _ (fun _ _ => rfl) (fun _ _ => rfl) true ?_
  intro a record
  cases a <;> cases record <;> rfl

theorem text? : a.text? = b.text? := by
  refine alike.blind _ (fun _ _ => rfl) (fun _ _ => rfl) none ?_
  intro a record
  cases a <;> cases record <;> rfl

theorem bool? : a.bool? = b.bool? := by
  refine alike.blind _ (fun _ _ => rfl) (fun _ _ => rfl) none ?_
  intro a record
  cases a <;> cases record <;> rfl

theorem function? : a.function? = b.function? := by
  refine alike.blind _ (fun _ _ => rfl) (fun _ _ => rfl) none ?_
  intro a record
  cases a <;> cases record <;> rfl

theorem isSame_text (s : String) : isSame a (.text s) = isSame b (.text s) := by
  refine alike.blind (isSame · _) (fun _ _ => rfl) (fun _ _ => rfl) false ?_
  intro a record
  cases a <;> cases record <;> rfl

theorem isSame_number (x : Float) : isSame a (.number x) = isSame b (.number x) := by
  cases alike with
  | flat => rfl
  | number equal => exact Number.beq_same equal (Number.same_refl x)
  | list => rfl
  | record left right => cases a <;> cases left <;> cases b <;> cases right <;> rfl

theorem isPlain : a.isPlain = b.isPlain := by
  cases alike with
  | record _ _ plain => exact plain
  | _ => rfl

theorem isTrue : a.isTrue = b.isTrue := by
  cases alike with
  | flat => rfl
  | number equal =>
    have zero := Number.beq_same equal (Number.same_refl 0)
    simp only [Value.isTrue,Number.isNaN_same equal,zero]
  | list => rfl
  | record left right => cases a <;> cases left <;> cases b <;> cases right <;> rfl

theorem number? : Option.Rel (fun x y => Number.same x y = true) a.number? b.number? := by
  cases alike with
  | flat =>
    cases a with
    | number x => exact .some (Number.same_refl x)
    | _ => exact .none
  | number equal => exact .some equal
  | list => exact .none
  | record left right => cases a <;> cases left <;> cases b <;> cases right <;> exact .none

theorem list? : Option.Rel (List.Forall₂ (Alike level)) a.list? b.list? := by
  cases alike with
  | flat flat =>
    cases a with
    | list => cases flat
    | _ => exact .none
  | number => exact .none
  | list counted each => exact .some (Alike.list counted each).items
  | record left right => cases a <;> cases left <;> cases b <;> cases right <;> exact .none

end

theorem flat_standard (owner : Owner) (key : String) : (standard owner key).isHolder = false := by
  unfold standard
  cases owner.holder? key with
  | some holder => rfl
  | none => by_cases based : key = "__proto__" <;> simp [based,isHolder]

theorem flat_getD {found : Option Value} (flat : ∀ value, found = some value → value.isHolder = false) (owner : Owner)
    (key : String) : (found.getD (standard owner key)).isHolder = false := by
  cases found with
  | none => exact flat_standard owner key
  | some value => exact flat value rfl

theorem flat_get (flat : a.isHolder = false) (key : String) : (a.get key).isHolder = false := by
  cases a with
  | list | record | heir => cases flat
  | text s =>
    refine flat_getD ?_ _ _
    intro value found
    unfold unitAt at found
    split at found
    · cases found
      rfl
    · obtain ⟨position,_,found⟩ := Option.bind_eq_some_iff.mp found
      obtain ⟨unit,_,rfl⟩ := Option.map_eq_some_iff.mp found
      rfl
  | function f =>
    refine flat_getD ?_ _ _
    intro value found
    unfold functionAt at found
    split at found
    · cases found
      rfl
    · split at found <;> cases found
      rfl
  | symbol name serial =>
    rw [Value.get]
    split
    · rfl
    · exact flat_standard _ _
  | ancestor =>
    rw [Value.get]
    split
    · rfl
    · exact flat_standard _ _
  | absent | null => rfl
  | _ => exact flat_standard _ _

-- A list answers for its length and its positions, and lists that read alike have the same of both.
theorem itemAt {xs ys : List Value} (items : List.Forall₂ (Alike level) xs ys) (key : String) :
    Option.Rel (Alike level) (itemAt xs key) (itemAt ys key) := by
  rw [Value.itemAt,Value.itemAt,items.length_eq]
  split
  · exact .some (.flat rfl)
  · cases Fields.position? key with
    | none => exact .none
    | some position => exact Agree.getElem? items position

theorem get (alike : Alike level a b) (key : String) : Alike level (a.get key) (b.get key) := by
  cases alike with
  | flat flat => exact .flat (flat_get flat key)
  | number => exact .flat (flat_standard _ _)
  | list counted each =>
    have items := (Alike.list counted each).items
    exact Agree.getD (itemAt items key) (.flat (flat_standard _ _))
  | record _ _ _ _ reads => exact reads key

theorem itself {value : Value} (distinct : Distinct value) (refl : ∀ value, level value value) :
    Alike level value value := by
  induction value using members with
  | plain value flat => exact .flat flat
  | list items ih =>
    refine alike_list (List.forall₂_same.mpr ?_)
    intro item there
    exact ih item there (distinctItems_iff.mp distinct item there)
  | record bare fields ih =>
    refine .record rfl rfl rfl (same_refl distinct) ?_ (refl _)
    intro key
    rw [Value.get]
    cases found : Fields.get? key fields with
    | none =>
      refine .flat ?_
      cases bare
      · exact flat_standard _ _
      · rfl
    | some held =>
      have listed := Fields.mem_of_get? found
      exact ih (key,held) listed (distinctFields_iff.mp distinct.2 _ listed)
  | heir base locked fields above ih =>
    refine .record rfl rfl rfl (same_refl distinct) ?_ (refl _)
    intro key
    rw [Value.get]
    cases found : Fields.get? key fields with
    | none => exact (above distinct.1).get key
    | some held =>
      have listed := Fields.mem_of_get? found
      exact ih (key,held) listed (distinctFields_iff.mp distinct.2.2 _ listed)

theorem offered_function (value : Value) (key : String) :
    Value.offered value key = match (value.get key).function? with
      | none => pure none
      | some (.member owner name) => pure (natural? owner name value)
      | some f => do
          let answer ← Ask.call f []
          return if answer.isScalar then some answer else none := by
  unfold Value.offered
  cases value.get key with
  | function f => cases f <;> rfl
  | _ => rfl

section

variable (alike : Alike level a b) (left : a.isRecord = true) (right : b.isRecord = true)
include alike left right

-- A record is asked through its functions, and records that read alike have the same.
theorem offered (key : String) : Value.offered a key = Value.offered b key := by
  have text (owner : Owner) : naturalText owner a = naturalText owner b := by
    cases a <;> cases left <;> cases b <;> cases right <;> rfl
  have natural (owner : Owner) (name : String) : natural? owner name a = natural? owner name b := by
    rw [natural?,natural?,text]
  rw [offered_function,offered_function,(alike.get key).function?]
  simp only [natural]

theorem firstOffered (purpose : Purpose) :
    Value.firstOffered a (asked purpose a) = Value.firstOffered b (asked purpose b) := by
  have order : asked purpose a = asked purpose b := by
    cases a <;> cases left <;> cases b <;> cases right <;> rfl
  rw [order]
  generalize asked purpose b = keys
  induction keys with
  | nil => rfl
  | cons key rest ih => rw [Value.firstOffered,Value.firstOffered,alike.offered left right,ih]

end

theorem toText_record {value : Value} (record : value.isRecord = true) :
    Value.toText value = (Value.firstOffered value (asked .text value) >>= scalarText) := by
  cases value <;> cases record <;> rw [Value.toText.eq_def]

-- What one item of a list gives.
def itemText : Value → Ask String
  | absent | null => return ""
  | symbol .. => .misuse .symbolText
  | item => item.toText

theorem itemTexts_mapM (items : List Value) : itemTexts items = items.mapM itemText := by
  induction items with
  | nil => rw [itemTexts,List.mapM_nil]
  | cons item rest ih =>
    rw [List.mapM_cons,← ih]
    cases item <;> rw [itemTexts.eq_def] <;> rfl

theorem itemText_of_toText (alike : Alike level a b) (equal : a.toText = b.toText) : itemText a = itemText b := by
  cases alike with
  | flat => rfl
  | number => exact equal
  | list => exact equal
  | record left right => cases a <;> cases left <;> cases b <;> cases right <;> exact equal

theorem toText (alike : Alike level a b) : a.toText = b.toText := by
  induction alike with
  | flat => rfl
  | number equal => rw [Value.toText.eq_6,Value.toText.eq_6,Number.written_same equal]
  | @list xs ys counted each ih =>
    have items : List.Forall₂ (fun x y => itemText x = itemText y) xs ys := by
      refine List.forall₂_iff_get.mpr ⟨counted,?_⟩
      intro i inside inside'
      exact itemText_of_toText (each i inside inside') (ih i inside inside')
    rw [Value.toText.eq_2,Value.toText.eq_2,itemTexts_mapM,itemTexts_mapM,Agree.mapM_eq items fun _ _ => id]
  | record left right plain equal reads here =>
    rw [toText_record left,toText_record right,(Alike.record left right plain equal reads here).firstOffered left right]

theorem shown (alike : Alike level a b) : a.shown = b.shown := by
  have equal := alike.toText
  cases alike with
  | flat => rfl
  | number => exact equal
  | list => exact equal
  | record left right => cases a <;> cases left <;> cases b <;> cases right <;> exact equal

theorem toScalar (alike : Alike level a b) (purpose : Purpose) :
    (∃ x y, a = .number x ∧ b = .number y ∧ Number.same x y = true) ∨ a.toScalar purpose = b.toScalar purpose := by
  cases alike with
  | flat => exact .inr rfl
  | number equal => exact .inl ⟨_,_,rfl,rfl,equal⟩
  | list counted each =>
    refine .inr ?_
    rw [Value.toScalar,Value.toScalar,(Alike.list counted each).toText]
  | record left right plain equal reads here =>
    refine .inr ?_
    have asked := (Alike.record left right plain equal reads here).firstOffered left right purpose
    cases a <;> cases left <;> cases b <;> cases right <;> exact asked

theorem toKey (alike : Alike level a b) : a.toKey = b.toKey := by
  rcases alike.toScalar .text with ⟨x,y,rfl,rfl,equal⟩ | equal
  · show (do return some (← (Value.number x).toText)) = (do return some (← (Value.number y).toText) : Ask (Option String))
    rw [alike.toText]
  · rw [Value.toKey,Value.toKey,equal]

theorem fetchBy_key {key value : Value} (named : key.text? = none) :
    Value.fetchBy key value = if value.isMissing then Value.fetch "" value
      else do return (← key.toKey).elim Value.absent (value.get ·) := by
  unfold Value.fetchBy
  cases key with
  | text => cases named
  | _ => cases value <;> rfl

theorem fetchBy (alike : Alike level a b) (value : Value) : Value.fetchBy a value = Value.fetchBy b value := by
  cases named : a.text? with
  | some s =>
    have named' := alike.text?.symm.trans named
    cases a <;> cases named
    cases b <;> cases named'
    rfl
  | none => rw [fetchBy_key named,fetchBy_key (alike.text?.symm.trans named),alike.toKey]

theorem fetch (alike : Alike level a b) (key : String) (host : Host) :
    Agree.Outcome (Alike level) (fetch key a host) (fetch key b host) := by
  cases missing : a.isMissing with
  | false =>
    rw [fetch_there missing,fetch_there (alike.isMissing.symm.trans missing)]
    exact .ok (alike.get key)
  | true =>
    cases alike with
    | flat => cases a <;> first | exact .error _ | cases missing
    | number => cases missing
    | list => cases missing
    | record left => cases a <;> cases left <;> cases missing

theorem lacking {α : Type} (alike : Alike level a b) (member : String) :
    (lacking member a : Ask α) = lacking member b := by
  refine alike.blind (Value.lacking member) (fun _ _ => rfl) (fun _ _ => rfl) (.misuse (.notCallable member)) ?_
  intro value record
  cases value <;> cases record <;> rfl

theorem textOf (alike : Alike level a b) (member : String) : textOf member a = textOf member b := by
  have texted (value : Value) : Value.textOf member value = value.text?.elim (Value.lacking member value) pure := by
    cases value <;> rfl
  rw [texted,texted,alike.text?,alike.lacking]

theorem listItems (alike : Alike level a b) (member : String) (host : Host) :
    Agree.Outcome (List.Forall₂ (Alike level)) (listItems member a host) (listItems member b host) := by
  cases alike with
  | flat flat =>
    cases a with
    | list => cases flat
    | _ => exact .error _
  | number => exact .error _
  | list counted each => exact .ok (Alike.list counted each).items
  | record left right => cases a <;> cases left <;> cases b <;> cases right <;> exact .error _

theorem itemsOf (alike : Alike level a b) (what : String) (host : Host) :
    Agree.Outcome (List.Forall₂ (Alike level)) (itemsOf what a host) (itemsOf what b host) := by
  cases alike with
  | flat flat =>
    cases a with
    | list => cases flat
    | text s =>
      refine .ok (List.forall₂_same.mpr ?_)
      intro unit there
      obtain ⟨c,_,rfl⟩ := List.mem_map.mp there
      exact .flat rfl
    | _ => exact .error _
  | number => exact .error _
  | list counted each => exact .ok (Alike.list counted each).items
  | record left right => cases a <;> cases left <;> cases b <;> cases right <;> exact .error _

theorem orElse (alike : Alike level a b) {other other' : Value} (others : Alike level other other') :
    Alike level (a.orElse other) (b.orElse other') := by
  rw [Value.orElse,Value.orElse,alike.isMissing]
  split
  · exact others
  · exact alike

theorem present? (alike : Alike level a b) : Option.Rel (Alike level) a.present? b.present? := by
  have read (value : Value) : value.present? = if value.isAbsent then none else some value := by cases value <;> rfl
  rw [read,read,alike.isAbsent]
  split
  · exact .none
  · exact .some alike

end Alike

end Trifold.Value
