import TableSearch.Proofs.Regex.Order

/-!
# Matches of a literal text

The program of a literal text is one chain of sets. There is only one way through it, which goes on
as long as the characters that come are in those sets, so it matches exactly where a text spells
them. All matches of a literal text are as long as the text is.
-/
namespace TableSearch.Regex

/-- From an address on, code consumes one character of each set and then accepts. -/
def Code.Spells (code : Code) : Nat → List CodeSet → Prop
  | address, [] => code[address]? = some (.save 1 0) ∧ code[0]? = some .accept
  | address, s :: rest => ∃ next, code[address]? = some (.set s next) ∧ code.Spells next rest

theorem Code.Spells.push {code : Code} {address : Nat} {sets : List CodeSet}
    (h : code.Spells address sets) (inst : Inst) : Code.Spells (code.push inst) address sets := by
  have keep {i : Nat} {old : Inst} (hi : code[i]? = some old) :
      (code.push inst)[i]? = some old := by
    obtain ⟨hlt, hv⟩ := Array.getElem?_eq_some_iff.mp hi
    rw [Array.getElem?_push_lt hlt, hv]
  induction sets generalizing address with
  | nil => exact ⟨keep h.1, keep h.2⟩
  | cons s rest ih =>
    obtain ⟨next, hi, hn⟩ := h
    exact ⟨next, keep hi, ih hn⟩

theorem emitAll_spells {e : Entry} (h : Code.Spells e.2 e.1 []) (sets : List CodeSet) :
    Code.Spells (emitAll (sets.map .set) e).2 (emitAll (sets.map .set) e).1 sets := by
  induction sets with
  | nil =>
    rw [List.map_nil, emitAll]
    exact h
  | cons s rest ih =>
    rw [List.map_cons, emitAll, Node.emit]
    exact ⟨_, Array.getElem?_push_size, ih.push _⟩

theorem simplify_literal (flags : Flags) (text : List Char) :
    (Node.concat (text.map fun c => .set (flags.fold (.single c)))).simplify =
      .concat ((text.map fun c => flags.fold (.single c)).map .set) := by
  rw [Node.simplify, simplifyAll_set, List.map_map]
  rfl

/-- A program that notes the start and then spells sets. -/
def Matcher.Spells (m : Matcher) (sets : List CodeSet) : Prop :=
  ∃ first, m.code[m.start]? = some (.save 0 first) ∧ m.code.Spells first sets

theorem Matcher.literal_spells (flags : Flags) (text : String) :
    (Matcher.literal flags text).Spells (text.toList.map fun c => flags.fold (.single c)) := by
  have hentry := ofNode_entry (.concat (text.toList.map fun c => .set (flags.fold (.single c)))) []
  rw [simplify_literal, Node.emit] at hentry
  have h := emitAll_spells (e := (1, ending)) ⟨rfl, rfl⟩
    (text.toList.map fun c => flags.fold (.single c))
  obtain ⟨hstart, hcode⟩ := Prod.mk.inj hentry
  refine ⟨(emitAll (List.map .set (text.toList.map fun c => flags.fold (.single c)))
    (1, ending)).1, ?_, ?_⟩
  · change (ofNode _ []).code[(ofNode _ []).start]? = _
    rw [hstart, hcode]
    exact Array.getElem?_push_size
  · change Code.Spells (ofNode _ []).code _ _
    rw [hcode]
    exact h.push _

theorem Matcher.eq_literal {flags : Flags} {text : String} {m : Matcher}
    (h : Matcher.compileLiteral flags text = .ok m) : m = .literal flags text := by
  unfold compileLiteral at h
  split at h
  · cases h
  · exact (Except.ok.inj h).symm

def spelledBy : List CodeSet → List Char → Bool
  | [], _ => true
  | _ :: _, [] => false
  | s :: sets, c :: cs => s.contains c && spelledBy sets cs

namespace Code.Spells

variable {code : Code} {address : Nat} {sets : List CodeSet}

theorem accept_zero (h : code.Spells address sets) : code[0]? = some .accept := by
  induction sets generalizing address with
  | nil => exact h.2
  | cons s rest ih =>
    obtain ⟨next, -, hnext⟩ := h
    exact ih hnext

theorem lt_size (h : code.Spells address sets) : address < code.size := by
  cases sets with
  | nil => exact (Array.getElem?_eq_some_iff.mp h.1).1
  | cons s rest =>
    obtain ⟨next, hi, -⟩ := h
    exact (Array.getElem?_eq_some_iff.mp hi).1

theorem ne_zero_of_getElem? (h : code.Spells address sets) {i : Nat} {inst : Inst}
    (hi : code[i]? = some inst) (hinst : inst ≠ .accept) : i ≠ 0 := by
  rintro rfl
  rw [h.accept_zero] at hi
  exact hinst (Option.some.inj hi).symm

theorem ne_zero (h : code.Spells address sets) : address ≠ 0 := by
  cases sets with
  | nil => exact h.ne_zero_of_getElem? h.1 (by simp)
  | cons s rest =>
    have hspells := h
    obtain ⟨next, hi, -⟩ := h
    exact hspells.ne_zero_of_getElem? hi (by simp)

theorem ne_save_zero (h : code.Spells address sets) {next : Nat} :
    code[address]? ≠ some (.save 0 next) := by
  intro hi
  cases sets with
  | nil =>
    rw [h.1] at hi
    cases hi
  | cons s rest =>
    obtain ⟨next, hset, -⟩ := h
    rw [hset] at hi
    cases hi

end Code.Spells

section Running

variable {code : Code} {address : Nat} {sets : List CodeSet}

def waiting (position address : Nat) (slots : Slots) : List CodeSet → Thread
  | [] => ⟨0, slots.setIfInBounds 1 (some position)⟩
  | _ :: _ => ⟨address, slots⟩

theorem reached_empty {i : Nat} (h : i < code.size) :
    (Frontier.empty code).reached.getD i true = false := by
  simp [Frontier.empty, h]

theorem reached_of_ne {reached : Array Bool} {i j : Nat} (hij : i ≠ j)
    (h : reached.getD j true = false) : (reached.setIfInBounds i true).getD j true = false := by
  rw [Array.getD_eq_getD_getElem?, Array.getElem?_setIfInBounds_ne hij,
    ← Array.getD_eq_getD_getElem?]
  exact h

/-- Following a way that spells sets leaves it waiting, unless another came first. -/
theorem follow_waiting (h : code.Spells address sets) (before after : Option Char)
    (position fuel : Nat) (slots : Slots) {f : Frontier}
    (haddress : f.reached.getD address true = false)
    (hzero : sets = [] → f.reached.getD 0 true = false) :
    (follow code before after position (fuel + 2) address slots f).threads =
      f.threads.push (waiting position address slots sets) := by
  cases sets with
  | cons s rest =>
    obtain ⟨next, hi, -⟩ := h
    rw [follow, haddress]
    simp only [Bool.false_eq_true, if_false, hi]
    rfl
  | nil =>
    have hne := h.ne_zero
    obtain ⟨hsave, haccept⟩ := h
    have hreached := reached_of_ne hne (hzero rfl)
    rw [follow, haddress]
    simp only [Bool.false_eq_true, if_false, hsave]
    rw [follow, hreached]
    simp only [Bool.false_eq_true, if_false, haccept]
    rfl

theorem follow_empty (h : code.Spells address sets) (before after : Option Char) (position : Nat)
    (slots : Slots) :
    (follow code before after position code.size address slots (.empty code)).threads.toList =
      [waiting position address slots sets] := by
  have hlt := h.lt_size
  have hne := h.ne_zero
  obtain ⟨fuel, hfuel⟩ : ∃ fuel, code.size = fuel + 2 := ⟨code.size - 2, by omega⟩
  have hthreads := follow_waiting h before after position fuel slots (reached_empty hlt)
    fun _ => reached_empty (by omega)
  rw [hfuel, hthreads]
  rfl

theorem follow_start {start : Nat} (hstart : code[start]? = some (.save 0 address))
    (h : code.Spells address sets) (before after : Option Char) (position : Nat) (slots : Slots) :
    (follow code before after position code.size start slots (.empty code)).threads.toList =
      [waiting position address (slots.setIfInBounds 0 (some position)) sets] := by
  have hlt := (Array.getElem?_eq_some_iff.mp hstart).1
  have hstartne := h.ne_zero_of_getElem? hstart (by simp)
  have haddress := h.lt_size
  have hne := h.ne_zero
  have hother : start ≠ address := by
    rintro rfl
    exact h.ne_save_zero hstart
  -- the start, what it leads to and the acceptance are three instructions
  obtain ⟨fuel, hfuel⟩ : ∃ fuel, code.size = fuel + 2 + 1 := ⟨code.size - 3, by omega⟩
  have hthreads := follow_waiting h before after position fuel
    (slots.setIfInBounds 0 (some position))
    (f := { Frontier.empty code with
      reached := (Frontier.empty code).reached.setIfInBounds start true })
    (reached_of_ne hother (reached_empty haddress))
    fun _ => reached_of_ne hstartne (reached_empty (by omega))
  rw [hfuel, follow, reached_empty hlt]
  simp only [Bool.false_eq_true, if_false, hstart]
  rw [hthreads]
  rfl

/-- The only way through the code accepts exactly if the text goes on with the sets. -/
theorem run_waiting (h : code.Spells address sets) (position : Nat) (slots : Slots)
    (cs : List Char) :
    run code position [waiting position address slots sets] none cs =
      if spelledBy sets cs then some (slots.setIfInBounds 1 (some (position + sets.length)))
      else none := by
  induction sets generalizing address position cs with
  | nil =>
    obtain ⟨-, haccept⟩ := h
    cases cs with
    | nil => simp [run, accepted, waiting, haccept, spelledBy]
    | cons c cs =>
      simp [run, advance, waiting, haccept, spelledBy, Frontier.empty]
  | cons s rest ih =>
    obtain ⟨next, hi, hnext⟩ := h
    cases cs with
    | nil => simp [run, accepted, waiting, hi, spelledBy]
    | cons c cs =>
      have hrest := ih hnext (position + 1) cs
      have hplace : position + 1 + rest.length = position + (s :: rest).length := by
        simp only [List.length_cons]
        omega
      rw [hplace] at hrest
      cases hc : s.contains c with
      | true =>
        simp only [run, advance, waiting, hi, hc, if_true, follow_empty hnext, spelledBy,
          Bool.true_and]
        exact hrest
      | false => simp [run, advance, waiting, hi, hc, spelledBy, Frontier.empty]

end Running

theorem groupsAll_map_set (sets : List CodeSet) : Node.groupsAll (sets.map .set) = 0 := by
  induction sets with
  | nil => rfl
  | cons s rest ih => rw [List.map_cons, Node.groupsAll, ih, Node.groups, Nat.zero_max]

namespace Matcher

theorem groups_literal (flags : Flags) (text : String) : (literal flags text).groups = 0 := by
  change (Node.concat (text.toList.map fun c => .set (flags.fold (.single c)))).simplify.groups = 0
  rw [simplify_literal, Node.groups, groupsAll_map_set]

/-- A program that spells sets matches what has them one after the other. -/
theorem matchAt_of_spells {m : Matcher} {sets : List CodeSet} (hm : m.Spells sets)
    (hgroups : m.groups = 0) (before : Option Char) (position : Nat) (cs : List Char) :
    m.matchAt before position cs =
      if spelledBy sets cs then some ⟨position, position + sets.length, []⟩ else none := by
  obtain ⟨first, hstart, hspells⟩ := hm
  rw [matchAt, hgroups]
  simp only [follow_start hstart hspells, run_waiting hspells]
  split
  · simp [groupOf]
  · rfl

theorem stop_of_mem_literal {flags : Flags} {literalText : String} {text : List Char}
    {found : Match} (h : found ∈ (Matcher.literal flags literalText).matchesIn text) :
    found.stop = found.start + literalText.toList.length := by
  obtain ⟨before, position, cs, hat⟩ := exists_matchAt_of_mem_matchesIn h
  have hspells := literal_spells flags literalText
  rw [matchAt_of_spells hspells (groups_literal flags literalText)] at hat
  split at hat
  · cases hat
    rw [List.length_map]
  · cases hat

end Matcher

end TableSearch.Regex
