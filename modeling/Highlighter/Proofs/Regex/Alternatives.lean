import Highlighter.Proofs.Regex.Matching
import Highlighter.Regex.Reader

/-!
# Alternatives and what they share

The alternatives of a pattern are tried in order, and the first one that succeeds together with the
rest decides. The reader does not leave them as they are written: what all of them begin with is
moved out, and alternatives that are single characters become one set. Neither changes what is
matched. An expression that can lead to one state only may be tried once for all alternatives, and a
character that is in two sets leads to the same state by either.

## Main results

* `Node.run_ofList_append` — a sequence is matched part by part
* `Node.run_ofAlternatives` — the first alternative that succeeds decides
* `Node.run_joinBranches` — joining alternatives changes nothing
* `Pattern.findAll_congr` — what is found depends only on how the expression runs
-/

namespace Highlighter.Regex

namespace Node

/-! ## Sequences and alternatives -/

theorem run_seq (first second : Node) (rest : Rest) :
    (seq first second).run rest = first.run (second.run rest) :=
  rfl

theorem run_ofList_nil (rest : Rest) : (ofList []).run rest = rest :=
  rfl

theorem run_ofList_cons (node : Node) (nodes : List Node) (rest : Rest) :
    (ofList (node :: nodes)).run rest = node.run ((ofList nodes).run rest) := by
  cases nodes with
  | nil => rfl
  | cons second nodes => rfl

/-- A sequence is matched part by part. -/
theorem run_ofList_append (nodes others : List Node) (rest : Rest) :
    (ofList (nodes ++ others)).run rest = (ofList nodes).run ((ofList others).run rest) := by
  induction nodes with
  | nil => rfl
  | cons node nodes ih => rw [List.cons_append, run_ofList_cons, run_ofList_cons, ih]

/-- The first alternative that succeeds decides. -/
theorem run_ofAlternatives {nodes : List Node} (nonempty : nodes ≠ []) (rest : Rest)
    (state : State) :
    (ofAlternatives nodes).run rest state = nodes.findSome? fun node => node.run rest state := by
  induction nodes with
  | nil => exact absurd rfl nonempty
  | cons node nodes ih =>
    cases nodes with
    | nil =>
      rw [ofAlternatives, List.findSome?]
      cases node.run rest state <;> rfl
    | cons second nodes =>
      have halt : ofAlternatives (node :: second :: nodes) =
          .alt node (ofAlternatives (second :: nodes)) := rfl
      rw [halt, run, ih (by simp)]
      cases h : node.run rest state <;> simp [List.findSome?_cons, h]

/-- What a list of branches leads to: the first one that succeeds decides. -/
def runBranches (branches : List (List Node)) (rest : Rest) : Rest :=
  fun state => branches.findSome? fun branch => (ofList branch).run rest state

theorem runBranches_cons (branch : List Node) (branches : List (List Node)) (rest : Rest)
    (state : State) :
    runBranches (branch :: branches) rest state =
      ((ofList branch).run rest state).or (runBranches branches rest state) := by
  rw [runBranches, List.findSome?_cons]
  cases (ofList branch).run rest state <;> rfl

/-! ## Shared beginnings -/

/-- An expression that is equal whenever it is written the same leads to one state at most. -/
theorem run_eq_bind {node : Node} (plain : node.isPlain = true) (rest : Rest) (state : State) :
    node.run rest state = (node.run some state).bind rest := by
  cases node with
  | chars set =>
    simp only [run]
    cases state.cursor.next? with
    | none => rfl
    | some next => by_cases h : set.holds next.1 = true <;> simp [h]
  | anchor condition => by_cases h : condition.holds state.cursor = true <;> simp [run, h]
  | backref index folding =>
    simp only [run]
    cases state.capture? index with
    | none => rfl
    | some capture => cases h : state.cursor.consume? folding capture.text <;> simp [h]
  | _ => cases plain

/-- What all branches begin with may be matched once for all of them. -/
theorem runBranches_map_cons {node : Node} (plain : node.isPlain = true)
    (branches : List (List Node)) (rest : Rest) (state : State) :
    runBranches (branches.map (node :: ·)) rest state =
      node.run (runBranches branches rest) state := by
  have hbranch : ∀ branch : List Node, (ofList (node :: branch)).run rest state =
      (node.run some state).bind ((ofList branch).run rest) := by
    intro branch
    rw [run_ofList_cons, run_eq_bind plain]
  rw [run_eq_bind plain, runBranches, List.findSome?_map]
  simp only [Function.comp_def, hbranch]
  cases node.run some state with
  | none => simp
  | some next => rfl

/-- Moving equal beginnings out of the branches changes nothing. -/
theorem run_shareHeads (count : Nat) (branches : List (List Node)) (rest : Rest) (state : State) :
    (ofList (shareHeads count branches).1).run (runBranches (shareHeads count branches).2 rest)
      state = runBranches branches rest state := by
  induction count generalizing branches state with
  | zero => rfl
  | succ count ih =>
    match branches with
    | [] => rfl
    | [] :: others => rfl
    | (node :: branch) :: others =>
      rw [shareHeads]
      split
      next hshared =>
        rw [Bool.and_eq_true, List.all_eq_true] at hshared
        obtain ⟨plain, heads⟩ := hshared
        -- every branch begins with the node, so the branches are their tails behind it
        have htails : (((node :: branch) :: others).map List.tail).map (node :: ·) =
            (node :: branch) :: others := by
          rw [List.map_map]
          refine (List.map_congr_left fun branch hbranch => ?_).trans (List.map_id _)
          have hhead := heads branch hbranch
          cases branch with
          | nil => simp at hhead
          | cons first branch =>
            obtain rfl : first = node := by simpa using hhead
            rfl
        rw [run_ofList_cons, ← htails, runBranches_map_cons plain, htails]
        congr 1
        funext next
        exact ih _ next
      next => rfl

/-- What is left of the branches consists of what was in them. -/
theorem exists_of_mem_shareHeads {count : Nat} {branches : List (List Node)} {branch : List Node}
    (h : branch ∈ (shareHeads count branches).2) : ∃ whole ∈ branches, branch <:+ whole := by
  induction count generalizing branches with
  | zero => exact ⟨branch, h, List.suffix_rfl⟩
  | succ count ih =>
    match branches with
    | [] => exact ⟨branch, h, List.suffix_rfl⟩
    | [] :: others => exact ⟨branch, h, List.suffix_rfl⟩
    | (node :: first) :: others =>
      rw [shareHeads] at h
      split at h
      next =>
        obtain ⟨tail, htail, hsuffix⟩ := ih h
        obtain ⟨whole, hwhole, rfl⟩ := List.mem_map.1 htail
        exact ⟨whole, hwhole, hsuffix.trans (List.tail_suffix whole)⟩
      next => exact ⟨branch, h, List.suffix_rfl⟩

/-! ## Single characters -/

/-- A character that is in either of two sets leads to the same state by both. -/
theorem run_chars_or {first second both : CharSet}
    (union : ∀ c, both.holds c = (first.holds c || second.holds c)) (rest : Rest) (state : State) :
    ((chars first).run rest state).or ((chars second).run rest state) =
      (chars both).run rest state := by
  simp only [run]
  cases state.cursor.next? with
  | none => rfl
  | some next =>
    simp only [union]
    by_cases hfirst : first.holds next.1 = true <;>
      by_cases hsecond : second.holds next.1 = true <;> simp [hfirst, hsecond]

theorem holds_charSet {options : Options} (exact : options.folding = .exact)
    (items : List CharItem) (c : Char) :
    (charSet options false items).holds c = items.any (·.holds .exact c) := by
  -- where characters are compared exactly, the set keeps its members as they are
  simp only [CharSet.holds, charSet, exact, Bool.bne_false, List.any_map]
  rw [Bool.eq_iff_iff, List.any_eq_true, List.any_eq_true]
  simp only [List.mem_eraseDups, Function.comp_apply]
  refine exists_congr fun item => and_congr_right fun _ => ?_
  cases item <;> simp

theorem exists_of_setMembers? {branch : List Node} {items : List CharItem}
    (h : setMembers? branch = some items) :
    ∃ set : CharSet, branch = [.chars set] ∧ set.negated = false ∧ set.items = items := by
  rw [setMembers?.eq_def] at h
  split at h
  next set =>
    split at h
    next => cases h
    next hnegated => exact ⟨set, rfl, by simpa using hnegated, Option.some.inj h⟩
  next => cases h

/-- Alternatives that are single characters are matched as one set. -/
theorem runBranches_sets {options : Options} (exact : options.folding = .exact)
    {branches : List (List Node)} {members : List (List CharItem)}
    (sets : branches.mapM setMembers? = some members)
    (exactly : ∀ branch ∈ branches, ∀ set, .chars set ∈ branch → set.folding = .exact)
    (rest : Rest) (state : State) :
    runBranches branches rest state =
      (chars (charSet options false members.flatten)).run rest state := by
  induction branches generalizing members with
  | nil =>
    obtain rfl : [] = members := by simpa using sets
    simp only [run]
    cases state.cursor.next? with
    | none => rfl
    | some next => simp [holds_charSet exact, runBranches]
  | cons branch branches ih =>
    simp only [List.mapM_cons, Option.bind_eq_bind, Option.bind_eq_some_iff, Option.pure_def,
      Option.some.injEq] at sets
    obtain ⟨items, hitems, others, hothers, rfl⟩ := sets
    obtain ⟨set, rfl, hnegated, rfl⟩ := exists_of_setMembers? hitems
    have hset : set.folding = .exact := exactly _ List.mem_cons_self set (by simp)
    have hrest := ih hothers fun branch hbranch => exactly branch (List.mem_cons_of_mem _ hbranch)
    rw [runBranches_cons, hrest]
    refine run_chars_or (fun c => ?_) rest state
    rw [holds_charSet exact, holds_charSet exact, List.flatten_cons, List.any_append]
    simp [CharSet.holds, hnegated, hset]

/-- Joining alternatives changes nothing. -/
theorem run_joinBranches {options : Options} (exact : options.folding = .exact)
    {branches : List (List Node)}
    (exactly : ∀ branch ∈ branches, ∀ set, .chars set ∈ branch → set.folding = .exact)
    (rest : Rest) (state : State) :
    (ofList (joinBranches options branches)).run rest state = runBranches branches rest state := by
  rw [joinBranches.eq_def]
  split
  next branch =>
    rw [runBranches_cons]
    simp [runBranches]
  next =>
    have hshare := run_shareHeads ((branches.head?.map List.length).getD 0) branches rest state
    have hleft : ∀ branch ∈ (shareHeads ((branches.head?.map List.length).getD 0) branches).2,
        ∀ set, .chars set ∈ branch → set.folding = .exact := by
      intro branch hbranch set hset
      obtain ⟨whole, hwhole, hsuffix⟩ := exists_of_mem_shareHeads hbranch
      exact exactly whole hwhole set (hsuffix.mem hset)
    generalize shareHeads ((branches.head?.map List.length).getD 0) branches = parts
      at hshare hleft ⊢
    obtain ⟨shared, left⟩ := parts
    rw [← hshare]
    cases hsets : left.mapM setMembers? with
    | some members =>
      simp only [hsets, run_ofList_append]
      congr 1
      funext next
      exact (runBranches_sets exact hsets hleft rest next).symm
    | none =>
      -- no branches at all would be no alternatives, but the empty set
      have hne : left ≠ [] := by
        rintro rfl
        cases hsets
      simp only [hsets, run_ofList_append]
      congr 1
      funext next
      show (ofAlternatives (left.map ofList)).run rest next = _
      rw [run_ofAlternatives (by simpa using hne), List.findSome?_map]
      rfl

/-! ## Expressions that run alike -/

section Alike

variable {node other : Node}

theorem searchWithin?_congr (alike : node.run = other.run) (count : Nat) (moving : Bool)
    (cursor : Cursor) :
    node.searchWithin? count moving cursor = other.searchWithin? count moving cursor := by
  induction count generalizing moving cursor with
  | zero => rw [searchWithin?, searchWithin?, matchAt?, matchAt?, alike]
  | succ count ih => simp only [searchWithin?, matchAt?, alike, ih]

theorem findWithin_congr (alike : node.run = other.run) (count : Nat) (moving : Bool)
    (cursor : Cursor) :
    node.findWithin count moving cursor = other.findWithin count moving cursor := by
  induction count generalizing moving cursor with
  | zero => rfl
  | succ count ih => simp only [findWithin, search?, searchWithin?_congr alike, ih]

end Alike

end Node

/-- What is found depends only on how the expression runs. -/
theorem Pattern.findAll_congr {pattern other : Pattern} (alike : pattern.node.run = other.node.run)
    (text : List Char) : pattern.findAll text = other.findAll text :=
  Node.findWithin_congr alike _ _ _

end Highlighter.Regex
