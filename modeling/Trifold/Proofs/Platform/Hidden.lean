import Trifold.Platform.Builtin
import Trifold.Proofs.Element.Slot
import Trifold.Proofs.Platform.Walk

namespace Trifold
open Value Element Agree

variable {a b : Value} {key : String} {xs ys : List Value} {element element' : Element}

namespace Element.Exchange

theorem fetch (pair : Exchange key xs ys a b element element') {name : String} (apart : name ≠ key) :
    a.fetch name = b.fetch name := by
  rw [fetch_there (there_of_sound pair.sound),fetch_there (there_of_sound pair.sound'),pair.others name apart]

theorem there (pair : Exchange key xs ys a b element element') :
    (a.get key).isAbsent = false ∧ (b.get key).isAbsent = false := by
  have kind := pair.same.2.2.2
  obtain ⟨sound,sound',kept,_,rfl,rfl,filled,filled'⟩ := pair
  exact ⟨slot_there sound kept filled,slot_there sound' (kind ▸ kept) filled'⟩

theorem style (pair : Exchange key xs ys a b element element') : a.get "style" = b.get "style" := by
  apply pair.others
  intro same
  exact slot?_apart pair.kept (by simp [← same])

theorem id (pair : Exchange key xs ys a b element element') : a.get "id" = b.get "id" := by
  apply pair.others
  intro same
  exact slot?_apart pair.kept (by simp [← same])

end Element.Exchange

namespace Label

theorem menuTitle_exchange (pair : Exchange "items" xs ys a b element element') : menuTitle a = menuTitle b := by
  simp (disch := decide) only [menuTitle,pair.fetch,pair.others]

theorem menuItem_exchange (pair : Exchange "submenu" xs ys a b element element') : menuItem a = menuItem b := by
  simp (disch := decide) only [menuItem,pair.fetch,pair.others,pair.there.1,pair.there.2]

theorem tab_exchange (pair : Exchange "content" xs ys a b element element') : tab a = tab b := by
  simp (disch := decide) only [tab,pair.fetch,pair.others]

theorem treeNode_exchange (pair : Exchange "children" xs ys a b element element') : treeNode a = treeNode b := by
  simp (disch := decide) only [treeNode,pair.fetch,pair.others,pair.there.1,pair.there.2]

end Label

namespace Details

theorem picked_exchange (pair : Exchange key xs ys a b element element') {names : List String} (apart : key ∉ names) :
    picked names a = picked names b := by
  unfold picked
  congr 1
  apply List.map_congr_left
  intro name listed
  have elsewhere : name ≠ key := by
    rintro rfl
    exact apart listed
  rw [pair.others name elsewhere]

theorem derived_exchange {body body' : Body} (bodies : Body.Exchanged xs ys body body') : derived body = derived body' := by
  cases bodies <;> rfl

theorem ofElement_exchange (pair : Exchange key xs ys a b element element') {further : List String}
    (apart : key ∉ further ++ keys element.kind) : ofElement further a element = ofElement further b element' := by
  rw [ofElement,ofElement,pair.same.2.2.2,picked_exchange pair apart,derived_exchange pair.body]

end Details

namespace Terminal

theorem tagged_exchange (pair : Exchange key xs ys a b element element') (node : Value) :
    tagged a element node = tagged b element' node := by
  have apart : key ∉ further element.kind ++ Details.keys element.kind := by
    have kept := pair.kept
    generalize element.kind = kind at kept
    cases kind <;> simp [Kind.slot?] at kept <;> subst kept <;> decide
  rw [tagged,tagged,pair.same.2.2.2,Details.ofElement_exchange pair apart]

theorem assemble_exchange (pair : Exchange key xs ys a b element element') (inside panel : List Value) :
    assemble a element inside panel = assemble b element' inside panel := by
  have bodies := pair.body
  have tag := tagged_exchange pair
  have kept := pair.kept
  unfold assemble
  rw [pair.style]
  simp only [tag]
  obtain ⟨id,style,visible,body⟩ := element
  obtain ⟨id',style',visible',body'⟩ := element'
  dsimp only at bodies
  cases bodies <;> simp only [Element.kind,Body.kind,Kind.slot?,Option.some.injEq] at kept <;> subst kept
  case menu => simp only [Label.menuTitle_exchange pair]
  case menuItem => simp only [Label.menuItem_exchange pair]
  case contextMenu => rfl
  case tabs => rfl
  case tab => simp only [Label.tab_exchange pair]
  case treeView => rfl
  case treeNode => simp only [Label.treeNode_exchange pair]
  case vbox => simp (disch := decide) only [box,pair.others]
  case hbox => simp (disch := decide) only [box,pair.others]

end Terminal

namespace Desktop

theorem tagged_exchange (pair : Exchange key xs ys a b element element') (widget : Value) :
    tagged a element widget = tagged b element' widget := by
  have apart : key ∉ further element.kind ++ Details.keys element.kind := by
    have kept := pair.kept
    generalize element.kind = kind at kept
    cases kind <;> simp [Kind.slot?] at kept <;> subst kept <;> decide
  rw [tagged,tagged,pair.same.2.2.2,Details.ofElement_exchange pair apart]

theorem assemble_exchange (pair : Exchange key xs ys a b element element') (inside panel : List Value) :
    assemble a element inside panel = assemble b element' inside panel := by
  have bodies := pair.body
  have tag := tagged_exchange pair
  have kept := pair.kept
  unfold assemble
  rw [pair.style,pair.id]
  simp only [tag]
  obtain ⟨id,style,visible,body⟩ := element
  obtain ⟨id',style',visible',body'⟩ := element'
  dsimp only at bodies
  cases bodies <;> simp only [Element.kind,Body.kind,Kind.slot?,Option.some.injEq] at kept <;> subst kept
  case menu => simp only [titleLabel,Label.menuTitle_exchange pair]
  case menuItem => simp (disch := decide) only [Label.menuItem_exchange pair,pair.others]
  case contextMenu => rfl
  case tabs => rfl
  case tab => simp only [Label.tab_exchange pair]
  case treeView => rfl
  case treeNode => simp only [Label.treeNode_exchange pair]
  case vbox => simp (disch := decide) only [boxProps,pair.others,Element.kind,Body.kind]
  case hbox => simp (disch := decide) only [boxProps,pair.others,Element.kind,Body.kind]

end Desktop

namespace Web

theorem assemble_exchange (pair : Exchange key xs ys a b element element') (inside panel : List Markup) :
    assemble a element inside panel = assemble b element' inside panel := by
  have bodies := pair.body
  have kept := pair.kept
  have id := pair.same.1
  unfold assemble
  rw [pair.style,id]
  obtain ⟨id,style,visible,body⟩ := element
  obtain ⟨id',style',visible',body'⟩ := element'
  dsimp only at bodies
  cases bodies <;> simp only [Element.kind,Body.kind,Kind.slot?,Option.some.injEq] at kept <;> subst kept
  case menu => simp only [Label.menuTitle_exchange pair]
  case menuItem => simp (disch := decide) only [Label.menuItem_exchange pair,Option.isSome_some]
  case contextMenu => rfl
  case tabs => rfl
  case tab => simp only [Label.tab_exchange pair]
  case treeView => rfl
  case treeNode => simp only [Label.treeNode_exchange pair,Option.isSome_some]
  case vbox => simp (disch := decide) only [box,pair.others]
  case hbox => simp (disch := decide) only [box,pair.others]

end Web

namespace Backend

variable {ρ : Type}

-- A platform that looks at nested values neither when it makes ready for an element nor when it assembles one.
structure Blind (backend : Backend ρ) : Prop where
  ready : ∀ {key xs ys a b element element'}, Exchange key xs ys a b element element' → backend.ready a = backend.ready b
  assembled : ∀ {key xs ys a b element element'}, Exchange key xs ys a b element element' → ∀ inside panel,
    backend.assemble a element inside panel = backend.assemble b element' inside panel

variable {backend : Backend ρ} {host : Host} {x y : Value} {before after : List Value}

theorem convertAll_exchange (same : backend.convert host x = backend.convert host y) :
    backend.convertAll host (before ++ x :: after) = backend.convertAll host (before ++ y :: after) := by
  induction before with
  | nil => simp only [List.nil_append,convertAll_cons,same]
  | cons head rest ih => simp only [List.cons_append,convertAll_cons,ih]

-- Two values that make no difference to the tab bar they stand in: both have the active id or neither, and where they have
-- it, what they hold becomes the same.
structure Interchangeable (backend : Backend ρ) (host : Host) (name x y : Value) : Prop where
  there : x.isMissing = false
  there' : y.isMissing = false
  named : Label.isNamed name x = Label.isNamed name y
  opened : Label.isNamed name x = true →
    backend.convertAll host (Label.contentOf x) = backend.convertAll host (Label.contentOf y)

theorem findNamed_cons {name value : Value} (there : value.isMissing = false) (rest : List Value) :
    Label.findNamed name (value :: rest) =
      if Label.isNamed name value then .ok (some value) else Label.findNamed name rest := by
  cases value <;> first | rfl | cases there

theorem findNamed_exchange {name : Value} (between : Interchangeable backend host name x y) (before after : List Value) :
    Outcome (Option.Rel fun v w => backend.convertAll host (Label.contentOf v) = backend.convertAll host (Label.contentOf w))
      (Label.findNamed name (before ++ x :: after)) (Label.findNamed name (before ++ y :: after)) := by
  have same (found : Except Misuse (Option Value)) :
      Outcome (Option.Rel fun v w => backend.convertAll host (Label.contentOf v) = backend.convertAll host (Label.contentOf w))
        found found := by
    cases found with
    | error cause => exact .error cause
    | ok hit =>
      cases hit with
      | none => exact .ok .none
      | some value => exact .ok (.some rfl)
  induction before with
  | nil =>
    simp only [List.nil_append,findNamed_cons between.there,findNamed_cons between.there',← between.named]
    split
    · rename_i named
      exact .ok (.some (between.opened named))
    · exact same _
  | cons head rest ih =>
    cases missing : head.isMissing with
    | true => cases head <;> first | exact .error _ | cases missing
    | false =>
      simp only [List.cons_append,findNamed_cons missing]
      split
      · exact .ok (.some rfl)
      · exact ih

theorem shown_exchange (pair : Exchange key (before ++ x :: after) (before ++ y :: after) a b element element')
    (same : backend.convert host x = backend.convert host y) :
    backend.convertAll host element.shown = backend.convertAll host element'.shown := by
  have bodies := pair.body
  unfold Element.shown
  generalize element.body = body at bodies ⊢
  generalize element'.body = body' at bodies ⊢
  have inside := @convertAll_exchange _ _ host _ _ before after same
  cases bodies
  case menuItem => rfl
  case tab => rfl
  case treeNode label value expanded icon iconExpanded selectable =>
    cases expanded
    · rfl
    · exact inside
  all_goals exact inside

theorem panel_exchange (pair : Exchange key (before ++ x :: after) (before ++ y :: after) a b element element')
    (between : ∀ it, element.body = .tabs it → ∀ name ∈ it.activeTab, Interchangeable backend host (text name) x y) :
    Outcome (fun held held' => backend.convertAll host held = backend.convertAll host held') element.panel element'.panel := by
  have bodies := pair.body
  unfold panel
  generalize element.body = body at bodies between ⊢
  generalize element'.body = body' at bodies ⊢
  cases bodies with
  | tabs active position change =>
    cases active with
    | none => exact .ok rfl
    | some name =>
      have found := findNamed_exchange (between _ rfl name rfl) before after
      show Outcome _ ((Label.findNamed (text name) (before ++ x :: after)).bind fun hit => .ok ((hit.map Label.contentOf).getD []))
        ((Label.findNamed (text name) (before ++ y :: after)).bind fun hit => .ok ((hit.map Label.contentOf).getD []))
      generalize Label.findNamed (text name) (before ++ x :: after) = left at found
      generalize Label.findNamed (text name) (before ++ y :: after) = right at found
      cases found with
      | error cause => exact .error cause
      | ok hits =>
        cases hits with
        | none => exact .ok rfl
        | some same => exact .ok same
  | _ => exact .ok rfl

-- One step up the tree: values that a walk does not tell apart may stand in for one another.
theorem convert_exchange (blind : backend.Blind)
    (pair : Exchange key (before ++ x :: after) (before ++ y :: after) a b element element')
    (same : backend.convert host x = backend.convert host y)
    (between : ∀ it, element.body = .tabs it → ∀ name ∈ it.activeTab, Interchangeable backend host (text name) x y) :
    backend.convert host a = backend.convert host b := by
  have visibility := pair.same.2.2.1
  by_cases visible : element.visible = true
  · have panels := panel_exchange pair between
    rw [convert_shown pair.sound visible,convert_shown pair.sound' (visibility.trans visible),blind.ready pair,
      shown_exchange pair same]
    simp only [blind.assembled pair]
    generalize element.panel = opened at panels ⊢
    generalize element'.panel = opened' at panels ⊢
    cases panels with
    | error cause => rfl
    | ok held => simp only [Run.ofMisuse_ok,Run.pure_bind,held]
  · have hidden : element.visible = false := by simpa using visible
    rw [convert_hidden pair.sound hidden,convert_hidden pair.sound' (visibility.trans hidden)]

-- The same for what the element shows as a tab.
theorem contentOf_exchange (pair : Exchange key (before ++ x :: after) (before ++ y :: after) a b element element')
    (same : backend.convert host x = backend.convert host y) :
    backend.convertAll host (Label.contentOf a) = backend.convertAll host (Label.contentOf b) := by
  by_cases content : key = "content"
  · have kind : element.kind = .tab := by
      have kept := pair.kept
      generalize element.kind = kind at kept
      cases kind <;> simp [Kind.slot?,content] at kept
      rfl
    rw [contentOf_tab ⟨element,pair.sound,kind⟩ pair.sound,
      contentOf_tab ⟨element',pair.sound',pair.same.2.2.2.trans kind⟩ pair.sound',pair.held,pair.held']
    exact convertAll_exchange same
  · unfold Label.contentOf
    rw [pair.others "content" (Ne.symm content)]

end Backend

namespace Element

def Hidden (value : Value) : Prop := ∃ element, ofValue? value = some element ∧ element.visible = false

-- The element is no tab bar that opens one of the two.
def Closed (element : Element) (old new : Value) : Prop :=
  match element.body with
  | .tabs it => ∀ name ∈ it.activeTab, Label.isNamed (text name) old = false ∧ Label.isNamed (text name) new = false
  | _ => True

-- The second value is the first with `new` in place of one `old`, anywhere beneath the root.
inductive Replaced (old new : Value) : Value → Value → Prop
  | here {a b : Value} {element element' : Element} {key : String} {before after : List Value}
      (pair : Exchange key (before ++ old :: after) (before ++ new :: after) a b element element')
      (closed : element.Closed old new) : Replaced old new a b
  | beneath {a b x y : Value} {element element' : Element} {key : String} {before after : List Value}
      (pair : Exchange key (before ++ x :: after) (before ++ y :: after) a b element element')
      (within : Replaced old new x y) : Replaced old new a b

end Element

namespace Backend

variable {ρ : Type} {backend : Backend ρ} {host : Host} {old new : Value}

theorem interchangeable_hidden (hidden : Hidden old) (hidden' : Hidden new) {name : Value}
    (apart : Label.isNamed name old = false ∧ Label.isNamed name new = false) :
    Interchangeable backend host name old new := by
  obtain ⟨_,sound,_⟩ := hidden
  obtain ⟨_,sound',_⟩ := hidden'
  refine ⟨there_of_sound sound,there_of_sound sound',apart.1.trans apart.2.symm,?_⟩
  intro named
  rw [apart.1] at named
  cases named

-- What is carried up the tree: beside what a value becomes, the id and the contents a tab bar above might ask for.
theorem convert_replaced (blind : backend.Blind) (hidden : Hidden old) (hidden' : Hidden new) {root root' : Value}
    (replaced : Replaced old new root root') : backend.convert host root = backend.convert host root' := by
  suffices backend.convert host root = backend.convert host root' ∧
      ∀ name, Interchangeable backend host name root root' from this.1
  induction replaced with
  | @here a b element element' key before after pair closed =>
    have same : backend.convert host old = backend.convert host new := by
      obtain ⟨_,sound,unseen⟩ := hidden
      obtain ⟨_,sound',unseen'⟩ := hidden'
      rw [convert_hidden sound unseen,convert_hidden sound' unseen']
    refine ⟨convert_exchange blind pair same ?_,?_⟩
    · intro it body name active
      apply interchangeable_hidden hidden hidden'
      rw [Closed,body] at closed
      exact closed name active
    · intro name
      refine ⟨there_of_sound pair.sound,there_of_sound pair.sound',?_,fun _ => contentOf_exchange pair same⟩
      simp only [Label.isNamed,pair.id]
  | @beneath a b x y element element' key before after pair within ih =>
    refine ⟨convert_exchange blind pair ih.1 fun _ _ name _ => ih.2 (text name),?_⟩
    intro name
    refine ⟨there_of_sound pair.sound,there_of_sound pair.sound',?_,fun _ => contentOf_exchange pair ih.1⟩
    simp only [Label.isNamed,pair.id]

end Backend

theorem Terminal.backend_blind : Terminal.backend.Blind := ⟨fun _ => rfl,assemble_exchange⟩

theorem Desktop.backend_blind : Desktop.backend.Blind := ⟨fun _ => rfl,assemble_exchange⟩

theorem Web.backend_blind : Web.backend.Blind := by
  refine ⟨?_,assemble_exchange⟩
  intro key xs ys a b element element' pair
  simp only [backend,pair.style]

namespace Renderer

theorem convert_without_hidden {old new root root' : Value} (hidden : Hidden old) (hidden' : Hidden new)
    (replaced : Replaced old new root root') (host : Host) (platform : Platform) :
    (builtin host platform).convert root = (builtin host platform).convert root' := by
  cases platform with
  | terminal =>
    change Backend.converted _ host _ _ = Backend.converted _ host _ _
    rw [Backend.converted,Backend.converted,Backend.convert_replaced Terminal.backend_blind hidden hidden' replaced]
  | desktop =>
    change Backend.converted _ host _ _ = Backend.converted _ host _ _
    rw [Backend.converted,Backend.converted,Backend.convert_replaced Desktop.backend_blind hidden hidden' replaced]
  | web =>
    change Backend.converted _ host _ _ = Backend.converted _ host _ _
    rw [Backend.converted,Backend.converted,Backend.convert_replaced Web.backend_blind hidden hidden' replaced]

-- A bar with one tab, which holds one thing.
def page (visible : Bool) (content : Value) : Value :=
  object [("type",text "tab"), ("id",text "page"), ("visible",.bool visible), ("label",text "Page"), ("disabled",.bool false),
    ("closable",.bool false), ("content",content)]

def bar (page : Value) : Value :=
  object [("type",text "tabs"), ("visible",.bool true), ("activeTab",text "page"), ("tabs",list [page])]

def drawer (content : Value) : Value :=
  object [("type",text "vbox"), ("visible",.bool true), ("spacing",number 0), ("children",list [content])]

def secret (visible : Bool) : Value := object [("type",text "text"), ("visible",.bool visible), ("content",text "secret")]

def unused : Value :=
  object [("type",text "button"), ("visible",.bool false), ("disabled",.bool true), ("onClick",text "unused")]

theorem exchange_drawer (x y : Value) : Exchange "children" [x] [y] (drawer x) (drawer y)
    ⟨none,none,true,.vbox ⟨[x],0,none,none,none⟩⟩ ⟨none,none,true,.vbox ⟨[y],0,none,none,none⟩⟩ := by
  refine ⟨rfl,rfl,rfl,?_,rfl,rfl,nofun,nofun⟩
  intro other apart
  simp [drawer,object,Value.get,Fields.get?,Ne.symm apart]

theorem exchange_page (x y : Value) : Exchange "content" [drawer x] [drawer y] (page true (drawer x)) (page true (drawer y))
    ⟨some "page",none,true,.tab ⟨"Page",none,false,false,some (drawer x)⟩⟩
    ⟨some "page",none,true,.tab ⟨"Page",none,false,false,some (drawer y)⟩⟩ := by
  refine ⟨rfl,rfl,rfl,?_,rfl,rfl,nofun,nofun⟩
  intro other apart
  simp [page,object,Value.get,Fields.get?,Ne.symm apart]

theorem exchange_bar (x y : Value) : Exchange "tabs" [x] [y] (bar x) (bar y)
    ⟨none,none,true,.tabs ⟨some "page",none,none,[x]⟩⟩ ⟨none,none,true,.tabs ⟨some "page",none,none,[y]⟩⟩ := by
  refine ⟨rfl,rfl,rfl,?_,rfl,rfl,nofun,nofun⟩
  intro other apart
  simp [bar,object,Value.get,Fields.get?,Ne.symm apart]

theorem convert_without_hidden_secret : Hidden (secret false) ∧ Hidden unused ∧
    Replaced (secret false) unused (bar (page true (drawer (secret false)))) (bar (page true (drawer unused))) ∧
    ∀ platform, (builtin .silent platform).convert (bar (page true (drawer (secret false)))) =
      (builtin .silent platform).convert (bar (page true (drawer unused))) := by
  have hidden : Hidden (secret false) := ⟨_,rfl,rfl⟩
  have hidden' : Hidden unused := ⟨_,rfl,rfl⟩
  have within : Replaced (secret false) unused (drawer (secret false)) (drawer unused) :=
    @Replaced.here _ _ _ _ _ _ _ [] [] (exchange_drawer _ _) trivial
  have opened : Replaced (secret false) unused (page true (drawer (secret false))) (page true (drawer unused)) :=
    @Replaced.beneath _ _ _ _ _ _ _ _ _ [] [] (exchange_page _ _) within
  have replaced : Replaced (secret false) unused (bar (page true (drawer (secret false)))) (bar (page true (drawer unused))) :=
    @Replaced.beneath _ _ _ _ _ _ _ _ _ [] [] (exchange_bar _ _) opened
  exact ⟨hidden,hidden',replaced,convert_without_hidden hidden hidden' replaced .silent⟩

-- The active tab is opened although it is hidden, and what it holds is on show: one part more than where it holds nothing
-- that can be seen.
theorem convert_hidden_opened : Hidden (page false (secret true)) ∧ Hidden (page false unused) ∧
    (∃ element element', Exchange "tabs" [page false (secret true)] [page false unused] (bar (page false (secret true)))
      (bar (page false unused)) element element') ∧
    ∀ platform, (builtin .silent platform).convert (bar (page false (secret true))) ≠
      (builtin .silent platform).convert (bar (page false unused)) := by
  have outer (page : Value) : ofValue? (bar page) = some ⟨none,none,true,.tabs ⟨some "page",none,none,[page]⟩⟩ := rfl
  have full : ofValue? (page false (secret true)) =
      some ⟨some "page",none,false,.tab ⟨"Page",none,false,false,some (secret true)⟩⟩ := rfl
  have empty : ofValue? (page false unused) =
      some ⟨some "page",none,false,.tab ⟨"Page",none,false,false,some unused⟩⟩ := rfl
  have shown : ofValue? (secret true) = some ⟨none,none,true,.text (some "secret")⟩ := rfl
  have hidden : ofValue? unused = some ⟨none,none,false,.button ⟨none,some (text "unused"),true⟩⟩ := rfl
  have found : Label.activeContent [page false (secret true)] (Value.ofText? (some "page")) = .ok [secret true] := rfl
  have found' : Label.activeContent [page false unused] (Value.ofText? (some "page")) = .ok [unused] := rfl
  refine ⟨⟨_,full,rfl⟩,⟨_,empty,rfl⟩,⟨_,_,exchange_bar _ _⟩,?_⟩
  intro platform same
  have opened {ρ : Type} (backend : Backend ρ) := @Backend.convert_shown _ backend .silent _ _ (outer (page false (secret true))) rfl
  have shut {ρ : Type} (backend : Backend ρ) := @Backend.convert_shown _ backend .silent _ _ (outer (page false unused)) rfl
  simp only [Element.shown,Element.panel,found,found',Backend.convertAll_cons,Backend.convertAll.eq_1,
    Backend.convert_shown shown rfl,Backend.convert_hidden full rfl,Backend.convert_hidden empty rfl,
    Backend.convert_hidden hidden rfl,Run.ofMisuse_ok,Run.pure_bind] at opened shut
  cases platform
  · change Backend.converted _ .silent id _ = Backend.converted _ .silent id _ at same
    rw [Backend.converted,Backend.converted,opened,shut] at same
    have counted := congrArg (fun run : Run Value =>
      run.outcome.toOption.map fun root => ((root.get "node").get "children").list?.map List.length) same
    change some (some 2) = some (some 1) at counted
    simp at counted
  · change Backend.converted _ .silent id _ = Backend.converted _ .silent id _ at same
    rw [Backend.converted,Backend.converted,opened,shut] at same
    have counted := congrArg (fun run : Run Value =>
      run.outcome.toOption.map fun root => (root.get "children").list?.map List.length) same
    change some (some 2) = some (some 1) at counted
    simp at counted
  · change Backend.converted _ .silent _ _ = Backend.converted _ .silent _ _ at same
    rw [Backend.converted,Backend.converted,opened,shut] at same
    have written := congrArg (fun run : Run Value =>
      run.outcome.toOption.map fun root => root.text?.map String.length) same
    revert written
    decide +kernel

end Renderer

end Trifold
