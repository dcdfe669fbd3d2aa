import TableSearch.Regex.Program

/-!
# Programs note the end of a match last

A program accepts at address 0 only, and address 0 is reached from address 1 alone, which notes the
end of the match. Writing the code of a pattern keeps this, whatever the pattern is: every
instruction goes on at the entry it was given or at an address that was written after it.
-/
namespace TableSearch.Regex

/-- The addresses an instruction may go on at. -/
def Inst.targets : Inst → List Nat
  | accept => []
  | look _ next => [next]
  | save _ next => [next]
  | set _ next => [next]
  | split first second => [first, second]

/-- Code that accepts at address 0 only, right after it noted the end of the match. -/
structure Code.Closed (code : Code) : Prop where
  two_le_size : 2 ≤ code.size
  accept_zero : ∀ {i : Nat}, code[i]? = some .accept → i = 0
  save_of_target : ∀ {i : Nat} {inst : Inst}, code[i]? = some inst → 0 ∈ inst.targets →
    inst = .save 1 0

/-- An instruction that neither accepts nor goes on at address 0. -/
def Inst.Inner (inst : Inst) : Prop := inst ≠ .accept ∧ 0 ∉ inst.targets

/-- An entry into closed code that does not skip the end of the match. -/
structure Entry.Sound (e : Entry) : Prop where
  closed : Code.Closed e.2
  ne_zero : e.1 ≠ 0

namespace Code.Closed

variable {code : Code}

theorem push (h : code.Closed) {inst : Inst} (hi : inst.Inner) : Code.Closed (code.push inst) where
  two_le_size := by
    have := h.two_le_size
    simp only [Array.size_push]
    omega
  accept_zero hj := by
    rw [Array.getElem?_push] at hj
    split at hj
    · exact absurd (Option.some.inj hj) hi.1
    · exact h.accept_zero hj
  save_of_target hj hz := by
    rw [Array.getElem?_push] at hj
    split at hj
    · cases hj
      exact absurd hz hi.2
    · exact h.save_of_target hj hz

theorem set (h : code.Closed) (address : Nat) {inst : Inst} (hi : inst.Inner) :
    Code.Closed (code.setIfInBounds address inst) where
  two_le_size := by
    simpa only [Array.size_setIfInBounds] using h.two_le_size
  accept_zero hj := by
    rw [Array.getElem?_setIfInBounds] at hj
    split at hj
    · split at hj
      · exact absurd (Option.some.inj hj) hi.1
      · cases hj
    · exact h.accept_zero hj
  save_of_target hj hz := by
    rw [Array.getElem?_setIfInBounds] at hj
    split at hj
    · split at hj
      · cases hj
        exact absurd hz hi.2
      · cases hj
    · exact h.save_of_target hj hz

theorem emit (h : code.Closed) {inst : Inst} (hi : inst.Inner) :
    Entry.Sound (Code.emit code inst) where
  closed := h.push hi
  ne_zero := by
    have := h.two_le_size
    change code.size ≠ 0
    omega

theorem next_ne_zero (h : code.Closed) {i : Nat} {inst : Inst} (hi : code[i]? = some inst)
    (hs : ∀ next, inst ≠ .save 1 next) {j : Nat} (hj : j ∈ inst.targets) : j ≠ 0 := by
  rintro rfl
  exact hs 0 (h.save_of_target hi hj)

end Code.Closed

theorem choice_inner {greedy : Bool} {more next : Nat} (hm : more ≠ 0) (hn : next ≠ 0) :
    (choice greedy more next).Inner := by
  cases greedy <;> simp [choice, Inst.Inner, Inst.targets, Ne.symm hm, Ne.symm hn]

/-- Writing a part keeps entries sound. -/
def Keeps (part : Entry → Entry) : Prop := ∀ e, Entry.Sound e → Entry.Sound (part e)

theorem copies_sound {part : Entry → Entry} (hp : Keeps part) (n : Nat) {e : Entry}
    (h : e.Sound) : (copies part n e).Sound := by
  induction n generalizing e with
  | zero => exact h
  | succ n ih => exact ih (hp e h)

theorem options_sound {part : Entry → Entry} (hp : Keeps part) {greedy : Bool} {next : Nat}
    (hn : next ≠ 0) (n : Nat) {e : Entry} (h : e.Sound) : (options greedy part next n e).Sound := by
  induction n generalizing e with
  | zero => exact h
  | succ n ih =>
    have hs := hp e h
    exact ih (hs.closed.emit (choice_inner hs.ne_zero hn))

/-- The code of a loop is closed, and neither its choice nor its body begins at address 0. -/
theorem loop_sound {part : Entry → Entry} (hp : Keeps part) (greedy : Bool) {next : Nat}
    (hn : next ≠ 0) {code : Code} (h : code.Closed) :
    (loop greedy part next code).1 ≠ 0 ∧ (loop greedy part next code).2.Sound := by
  have hi : (Inst.split next next).Inner := by
    simp [Inst.Inner, Inst.targets, Ne.symm hn]
  have ha := h.emit hi
  have hb := hp _ ha
  exact ⟨ha.ne_zero, hb.closed.set _ (choice_inner hb.ne_zero hn), hb.ne_zero⟩

mutual

theorem Node.emit_sound (node : Node) : Keeps node.emit := by
  intro e h
  match node with
  | .empty =>
    rw [Node.emit]
    exact h
  | .set s =>
    rw [Node.emit]
    exact h.closed.emit (by simp [Inst.Inner, Inst.targets, Ne.symm h.ne_zero])
  | .look l =>
    rw [Node.emit]
    exact h.closed.emit (by simp [Inst.Inner, Inst.targets, Ne.symm h.ne_zero])
  | .group none body =>
    rw [Node.emit]
    exact body.emit_sound e h
  | .group (some index) body =>
    rw [Node.emit]
    have hi : (Inst.save (2 * index + 1) e.1).Inner := by
      simp [Inst.Inner, Inst.targets, Ne.symm h.ne_zero]
    have hb := body.emit_sound _ (h.closed.emit hi)
    exact hb.closed.emit (by simp [Inst.Inner, Inst.targets, Ne.symm hb.ne_zero])
  | .repeated least (some most) greedy body =>
    rw [Node.emit]
    have hb : Keeps fun e => body.emit e := body.emit_sound
    exact copies_sound hb least (options_sound hb h.ne_zero (most - least) h)
  | .repeated 0 none greedy body =>
    rw [Node.emit]
    have hb : Keeps fun e => body.emit e := body.emit_sound
    obtain ⟨hagain, hl⟩ := loop_sound hb greedy h.ne_zero h.closed
    dsimp only
    split
    · exact hl.closed.emit (choice_inner hl.ne_zero h.ne_zero)
    · exact ⟨hl.closed, hagain⟩
  | .repeated (least + 1) none greedy body =>
    rw [Node.emit]
    have hb : Keeps fun e => body.emit e := body.emit_sound
    exact copies_sound hb least (loop_sound hb greedy h.ne_zero h.closed).2
  | .concat parts =>
    rw [Node.emit]
    exact emitAll_sound parts e h
  | .alt branches =>
    rw [Node.emit]
    exact emitBranches_sound branches h.ne_zero h.closed

theorem emitAll_sound (nodes : List Node) : Keeps (emitAll nodes) := by
  intro e h
  match nodes with
  | [] =>
    rw [emitAll]
    exact h
  | node :: nodes =>
    rw [emitAll]
    exact node.emit_sound _ (emitAll_sound nodes e h)

theorem emitBranches_sound (nodes : List Node) {next : Nat} {code : Code} (hn : next ≠ 0)
    (h : code.Closed) : (emitBranches nodes next code).Sound := by
  match nodes with
  | [] =>
    rw [emitBranches]
    exact ⟨h, hn⟩
  | [node] =>
    rw [emitBranches]
    exact node.emit_sound _ ⟨h, hn⟩
  | node :: other :: nodes =>
    have hs := emitBranches_sound (other :: nodes) hn h
    have hf := node.emit_sound (next, (emitBranches (other :: nodes) next code).2) ⟨hs.closed, hn⟩
    rw [emitBranches]
    · exact hf.closed.emit
        (by simp [Inst.Inner, Inst.targets, Ne.symm hs.ne_zero, Ne.symm hf.ne_zero])
    · exact List.cons_ne_nil other nodes

end

/-- The code that every program begins with: accept, after noting the end of the match. -/
def ending : Code := #[.accept, .save 1 0]

theorem ending_sound : Entry.Sound (1, ending) where
  ne_zero := Nat.one_ne_zero
  closed :=
    { two_le_size := Nat.le_refl 2
      accept_zero := by
        intro i h
        match i with
        | 0 => rfl
        | 1 => cases h
        | i + 2 => simp [ending] at h
      save_of_target := by
        intro i inst h hz
        match i with
        | 0 =>
          have he : inst = .accept := (Option.some.inj h).symm
          simp [he, Inst.targets] at hz
        | 1 => exact (Option.some.inj h).symm
        | i + 2 => simp [ending] at h }

theorem simplifyAll_set {α : Type} (g : α → CodeSet) (l : List α) :
    Node.simplifyAll (l.map fun a => .set (g a)) = l.map fun a => .set (g a) := by
  induction l with
  | nil => rfl
  | cons a l ih => rw [List.map_cons, Node.simplifyAll, Node.simplify, ih]

/-- A program in which every way to accept notes the end of the match last. -/
structure Matcher.Sound (m : Matcher) : Prop where
  closed : m.code.Closed
  start_ne_zero : m.start ≠ 0

theorem Matcher.ofNode_entry (node : Node) (names : List (String × Nat)) :
    ((Matcher.ofNode node names).start, (Matcher.ofNode node names).code) =
      Code.emit (node.simplify.emit (1, ending)).2
        (.save 0 (node.simplify.emit (1, ending)).1) := by
  have he : (Node.group (some 0) node.simplify).emit (Code.emit #[] .accept) =
      Code.emit (node.simplify.emit (1, ending)).2
        (.save 0 (node.simplify.emit (1, ending)).1) := by
    rw [Node.emit]
    rfl
  exact he

theorem Matcher.ofNode_sound (node : Node) (names : List (String × Nat)) :
    (Matcher.ofNode node names).Sound := by
  have hbody := node.simplify.emit_sound (1, ending) ending_sound
  have hi : (Inst.save 0 (node.simplify.emit (1, ending)).1).Inner := by
    simp [Inst.Inner, Inst.targets, Ne.symm hbody.ne_zero]
  have hall := hbody.closed.emit hi
  rw [← Matcher.ofNode_entry node names] at hall
  exact ⟨hall.closed, hall.ne_zero⟩

theorem Matcher.compile_sound {flags : Flags} {pattern : String} {m : Matcher}
    (h : Matcher.compile flags pattern = .ok m) : m.Sound := by
  unfold Matcher.compile at h
  cases hr : readPattern flags pattern with
  | error e => simp [hr, bind, Except.bind] at h
  | ok r =>
    obtain ⟨node, names⟩ := r
    simp only [hr, bind, Except.bind] at h
    split at h
    · cases h
    · cases h
      exact ofNode_sound node names

end TableSearch.Regex
