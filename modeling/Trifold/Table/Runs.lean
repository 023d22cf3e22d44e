namespace Trifold.Runs

variable {α : Type} {m : Type → Type} [Monad m]

-- Which end of two runs a merge starts from. From the back both runs are held in reverse.
inductive End where
  | front
  | back
  deriving DecidableEq, Repr

def middle (side : End) (low high : Nat) : Nat :=
  match side with
  | .front => low + (high - low) / 2
  | .back => high - 1 - (high - low) / 2

theorem middle_bounds (side : End) (low high : Nat) (_ : low < high) :
    low ≤ middle side low high ∧ middle side low high < high := by
  cases side <;> simp only [middle] <;> omega

-- Longer and longer strides, until one does not win: the last place that won, and the first known not to.
def stride (wins : α → m Bool) (items : List α) (last next : Nat) : m (Nat × Nat) := do
  if inside : next < items.length then
    if ← wins items[next] then stride wins items next (2 * next + 1) else return (last,next)
  else return (last,items.length)
termination_by items.length - next

def narrow (side : End) (wins : α → m Bool) (items : List α) (low high : Nat) : m Nat := do
  if _ : low < high then
    let place := middle side low high
    match items[place]? with
    | none => return high
    | some item =>
        if ← wins item then narrow side wins items (place + 1) high else narrow side wins items low place
  else return high
termination_by high - low
decreasing_by
  all_goals
    have := middle_bounds side low high (by assumption)
    omega

def lead (side : End) (wins : α → m Bool) (items : List α) : m Nat := do
  match items with
  | [] => return 0
  | first :: _ =>
      if !(← wins first) then return 0
      let (last,next) ← stride wins items 0 1
      narrow side wins items (last + 1) next

def gallopWins : Nat := 7

-- `goes w k` tells whether `w`, of the run that waits in place, goes before `k`, of the run kept aside. The answer
-- is the merged run, and how many wins in a row the next merge has to see before it gallops.
mutual
def itemwise (side : End) (goes : α → α → m Bool) (needed keptWins placeWins : Nat) (kept place : List α) :
    m (List α × Nat) := do
  match kept, place with
  | k :: ks, p :: ps =>
      if ← goes p k then
        if ps.isEmpty then return (p :: k :: ks,needed)
        let (rest,needed) ←
          if placeWins + 1 < needed then itemwise side goes needed 0 (placeWins + 1) (k :: ks) ps
          else gallop side goes needed (k :: ks) ps
        return (p :: rest,needed)
      else
        if ks.length = 1 then return (k :: p :: ps ++ ks,needed)
        let (rest,needed) ←
          if keptWins + 1 < needed then itemwise side goes needed (keptWins + 1) 0 ks (p :: ps)
          else gallop side goes needed ks (p :: ps)
        return (k :: rest,needed)
  | kept, place => return (kept ++ place,needed)
termination_by (kept.length + place.length,0)
decreasing_by all_goals (simp_all; omega)
def gallop (side : End) (goes : α → α → m Bool) (needed : Nat) (kept place : List α) : m (List α × Nat) :=
  match side with
  | .front => gallopKept .front goes false (max 1 needed) 0 kept place
  | .back => gallopPlace .back goes false (max 1 needed) 0 kept place
termination_by (kept.length + place.length,1)
def gallopKept (side : End) (goes : α → α → m Bool) (second : Bool) (needed earlier : Nat) (kept place : List α) :
    m (List α × Nat) := do
  match place with
  | [] => return (kept,needed)
  | p :: ps =>
      let wins ← lead side (fun k => do return !(← goes p k)) kept
      let rest := kept.drop wins
      if 0 < wins && rest.length ≤ 1 then return (kept.take wins ++ p :: ps ++ rest,needed)
      if ps.isEmpty then return (kept.take wins ++ p :: rest,needed)
      let (merged,needed) ←
        if !second then gallopPlace side goes true needed wins rest ps
        else if gallopWins ≤ earlier || gallopWins ≤ wins then gallop side goes (needed - 1) rest ps
        else itemwise side goes (needed + 1) 0 0 rest ps
      return (kept.take wins ++ p :: merged,needed)
termination_by (kept.length + place.length,0)
decreasing_by all_goals (simp_all; omega)
def gallopPlace (side : End) (goes : α → α → m Bool) (second : Bool) (needed earlier : Nat) (kept place : List α) :
    m (List α × Nat) := do
  match kept with
  | [] => return (place,needed)
  | k :: ks =>
      let wins ← lead side (fun p => goes p k) place
      let rest := place.drop wins
      if 0 < wins && rest.isEmpty then return (place ++ k :: ks,needed)
      if ks.length = 1 then return (place.take wins ++ k :: rest ++ ks,needed)
      let (merged,needed) ←
        if !second then gallopKept side goes true needed wins ks rest
        else if gallopWins ≤ earlier || gallopWins ≤ wins then gallop side goes (needed - 1) ks rest
        else itemwise side goes (needed + 1) 0 0 ks rest
      return (place.take wins ++ k :: merged,needed)
termination_by (kept.length + place.length,0)
decreasing_by all_goals (simp_all; omega)
end

def mergeFrom (side : End) (goes : α → α → m Bool) (needed : Nat) (kept place : List α) : m (List α × Nat) := do
  match place with
  | [] => return (kept,needed)
  | p :: ps =>
      if ps.isEmpty || kept.length = 1 then return (p :: ps ++ kept,needed)
      let (rest,needed) ← itemwise side goes needed 0 0 kept ps
      return (p :: rest,needed)

-- What is in place at either end stays there; of what is left the shorter run is kept aside.
def merge (less : α → α → m Bool) (needed : Nat) (left right : List α) : m (List α × Nat) := do
  match right with
  | [] => return (left,needed)
  | first :: _ =>
      let settled ← lead .front (fun item => do return !(← less first item)) left
      let moving := left.drop settled
      match moving.getLast? with
      | none => return (left ++ right,needed)
      | some last =>
          let above ← lead .back (fun item => do return !(← less item last)) right.reverse
          let coming := right.take (right.length - above)
          let after := right.drop (right.length - above)
          if coming.isEmpty then return (left ++ right,needed)
          let (merged,needed) ←
            if moving.length ≤ coming.length then mergeFrom .front less needed moving coming
            else do
              let (merged,needed) ← mergeFrom .back (fun p k => less k p) needed coming.reverse moving.reverse
              pure (merged.reverse,needed)
          return (left.take settled ++ merged ++ after,needed)

abbrev Pending (α : Type) := List (List α)

-- A run is longer than the two after it together.
def isBalanced : Pending α → Bool
  | last :: before :: earlier :: _ => last.length + before.length < earlier.length
  | _ => true

def collapse (less : α → α → m Bool) (needed : Nat) (pending : Pending α) : m (Pending α × Nat) := do
  match pending with
  | last :: before :: rest =>
      if !isBalanced pending || !isBalanced (before :: rest) then
        match rest with
        | earlier :: rest =>
            if earlier.length < last.length then
              let (merged,needed) ← merge less needed earlier before
              collapse less needed (last :: merged :: rest)
            else
              let (merged,needed) ← merge less needed before last
              collapse less needed (merged :: earlier :: rest)
        | [] => return (pending,needed)
      else if before.length ≤ last.length then
        let (merged,needed) ← merge less needed before last
        collapse less needed (merged :: rest)
      else return (pending,needed)
  | pending => return (pending,needed)
termination_by pending.length

def finish (less : α → α → m Bool) (needed : Nat) (pending : Pending α) : m (List α) := do
  match pending with
  | [] => return []
  | [run] => return run
  | last :: before :: rest =>
      match rest with
      | earlier :: others =>
          if earlier.length < last.length then
            let (merged,needed) ← merge less needed earlier before
            finish less needed (last :: merged :: others)
          else
            let (merged,needed) ← merge less needed before last
            finish less needed (merged :: earlier :: others)
      | [] =>
          let (merged,needed) ← merge less needed before last
          finish less needed [merged]
termination_by pending.length

-- The leading six bits of a length, and one more if any bit after them is set.
def leadingBits (after length : Nat) : Nat :=
  if length < 64 then length + after else leadingBits (max after (length % 2)) (length / 2)
termination_by length

def leastRun (length : Nat) : Nat := leadingBits 0 length

def goingOn (less : α → α → m Bool) (falling : Bool) (last : α) : List α → m Nat
  | [] => return 0
  | item :: rest => do
      if (← less item last) == falling then return (← goingOn less falling item rest) + 1 else return 0

def insert (less : α → α → m Bool) (sorted : List α) (item : α) : m (List α) := do
  let place ← narrow .front (fun other => do return !(← less item other)) sorted 0 sorted.length
  return sorted.take place ++ item :: sorted.drop place

def startingRun (less : α → α → m Bool) (least : Nat) (items : List α) : m (List α × Nat) := do
  match items with
  | first :: second :: rest =>
      let falling ← less second first
      let length := (← goingOn less falling second rest) + 2
      let run := items.take length
      let length' := max length (min least items.length)
      return (← ((items.drop length).take (length' - length)).foldlM (insert less) (if falling then run.reverse else run),
        length')
  | items => return (items,1)

def sortFrom (less : α → α → m Bool) (least needed : Nat) (pending : Pending α) (items : List α) : m (List α) := do
  match items with
  | [] => finish less needed pending
  | first :: rest =>
      let (run,length) ← startingRun less least (first :: rest)
      let (pending,needed) ← collapse less needed (run :: pending)
      sortFrom less least needed pending (rest.drop (length - 1))
termination_by items.length
decreasing_by simp only [List.length_drop,List.length_cons]; omega

-- With an order that contradicts itself the outcome depends on every question asked, so the questions are part of the rule.
def sort (less : α → α → m Bool) (items : List α) : m (List α) :=
  sortFrom less (leastRun items.length) gallopWins [] items

end Trifold.Runs
