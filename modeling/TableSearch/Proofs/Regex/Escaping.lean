import TableSearch.Proofs.Regex.Program

/-!
# Escaped patterns

A text is written as a pattern with a backslash before every character that has a meaning of its
own. Reading that pattern gives back the characters of the text, each as the set of itself, so the
pattern is compiled to the program of the literal text.
-/
namespace TableSearch.Regex

def escapeLiteral (c : Char) : List Char := if isMeta c then ['\\', c] else [c]

/-- The pattern that matches a text and nothing else. -/
def literalPattern (text : String) : String := String.ofList (text.toList.flatMap escapeLiteral)

theorem ne_of_not_isMeta {c d : Char} (hc : isMeta c = false) (hd : isMeta d = true) : c ≠ d := by
  rintro rfl
  rw [hc] at hd
  cases hd

section Reading

variable {f : Flags}

theorem Flags.skip_of_not_verbose (hf : f.verbose = false) (cs : List Char) : f.skip cs = cs := by
  rw [skip, hf]
  rfl

theorem toNode_char (hf : f.unicode = true) (c : Char) :
    (Atom.char c).toNode f = .ok (.set (f.fold (.single c))) := by
  rw [Atom.toNode, hf]
  rfl

theorem escape_of_isMeta (f : Flags) {c : Char} (hc : isMeta c = true) (cs : List Char) :
    escape f (c :: cs) = .ok (.char c, cs) := by
  have hmem : c ∈ ['\\', '.', '+', '*', '?', '(', ')', '|', '[', ']', '\x7b', '\x7d', '^', '$',
      '#', '&', '-', '~'] := by
    simpa [isMeta] using hc
  simp only [List.mem_cons, List.not_mem_nil, or_false] at hmem
  rcases hmem with rfl | rfl | rfl | rfl | rfl | rfl | rfl | rfl | rfl | rfl | rfl | rfl | rfl |
    rfl | rfl | rfl | rfl | rfl
  all_goals rfl

theorem primitive_escaped (hf : f.unicode = true) {c : Char} (hc : isMeta c = true)
    (cs : List Char) : primitive f ('\\' :: c :: cs) = .ok (.set (f.fold (.single c)), cs) := by
  simp only [primitive, escape_of_isMeta f hc, bind, Except.bind, toNode_char hf]
  rfl

theorem primitive_plain (hf : f.unicode = true) {c : Char} (hc : isMeta c = false)
    (cs : List Char) : primitive f (c :: cs) = .ok (.set (f.fold (.single c)), cs) := by
  have hne {d : Char} (hd : isMeta d = true) : c ≠ d := ne_of_not_isMeta hc hd
  rw [primitive]
  · simp only [toNode_char hf, bind, Except.bind]
    rfl
  · exact hne (by decide)
  · exact hne (by decide)
  · exact hne (by decide)
  · exact hne (by decide)

/-- The characters that begin or end more than one character of a pattern. -/
def structural : List Char := [')', '|', '(', '[', '?', '*', '+', '\x7b']

theorem notMem_structural {c : Char} (hc : isMeta c = false) : c ∉ structural := by
  have hall : structural.all isMeta = true := by decide
  intro hmem
  exact ne_of_not_isMeta hc (List.all_eq_true.mp hall c hmem) rfl

/-- What no structural character begins is one item of the sequence. -/
theorem body_of_not_structural {r : Reading} (hr : r.flags.verbose = false) {c : Char}
    (hc : c ∉ structural) (nested : Bool) (fuel : Nat) (branches : List Node)
    (parts : Parts) {node : Node} {cs rest : List Char}
    (h : primitive r.flags (c :: cs) = .ok (node, rest)) :
    body nested (fuel + 1) r branches parts (c :: cs) =
      body nested fuel r branches (some node :: parts) rest := by
  have hne {d : Char} {ds : List Char} (hd : d ∈ structural) : c :: cs ≠ d :: ds :=
    fun heq => hc ((List.cons.inj heq).1 ▸ hd)
  rw [body, r.flags.skip_of_not_verbose hr]
  split
  case h_1 heq => cases heq
  case h_10 => rw [h]
  all_goals exact absurd ‹_› (hne (by decide))

theorem body_escapeLiteral {r : Reading} (hr : r.flags.verbose = false)
    (hu : r.flags.unicode = true) (c : Char) (nested : Bool) (fuel : Nat) (branches : List Node)
    (parts : Parts) (cs : List Char) :
    body nested (fuel + 1) r branches parts (escapeLiteral c ++ cs) =
      body nested fuel r branches (some (.set (r.flags.fold (.single c))) :: parts) cs := by
  unfold escapeLiteral
  split
  · rename_i hc
    exact body_of_not_structural hr (by decide) _ _ _ _ (primitive_escaped hu hc cs)
  · rename_i hc
    rw [Bool.not_eq_true] at hc
    exact body_of_not_structural hr (notMem_structural hc) _ _ _ _ (primitive_plain hu hc cs)

def Flags.items (f : Flags) (text : List Char) : List Node :=
  text.map fun c => .set (f.fold (.single c))

theorem body_literal {r : Reading} (hr : r.flags.verbose = false) (hu : r.flags.unicode = true)
    {fuel : Nat} (branches : List Node) (parts : Parts) {text : List Char}
    (hfuel : text.length < fuel) :
    body false fuel r branches parts (text.flatMap escapeLiteral) =
      .ok (alternatives branches (((r.flags.items text).map some).reverse ++ parts), r, []) := by
  induction text generalizing fuel parts with
  | nil =>
    cases fuel with
    | zero => cases hfuel
    | succ fuel =>
      rw [List.flatMap_nil, body, r.flags.skip_of_not_verbose hr]
      rfl
  | cons c text ih =>
    cases fuel with
    | zero => cases hfuel
    | succ fuel =>
      rw [List.flatMap_cons, body_escapeLiteral hr hu, ih _ (Nat.lt_of_succ_lt_succ hfuel)]
      simp [Flags.items]

end Reading

section Compiling

variable (f : Flags) (text : List Char)

/-- The tree of a text that was read as items: none, one or a sequence. -/
def Flags.tree : Node := Parts.toNode ((f.items text).map some).reverse

theorem Flags.tree_eq : f.tree text = match f.items text with
    | [] => .empty
    | [node] => node
    | nodes => .concat nodes := by
  have hitems : ((f.items text).map some).reverse.reverse.filterMap id = f.items text := by
    rw [List.reverse_reverse, List.filterMap_map]
    exact List.filterMap_some
  have htree : f.tree text = match ((f.items text).map some).reverse.reverse.filterMap id with
      | [] => .empty
      | [node] => node
      | nodes => .concat nodes := rfl
  rw [hitems] at htree
  exact htree

theorem Flags.depth_tree : (f.tree text).depth ≤ 1 := by
  have hdepth : Node.depthAll (f.items text) = 0 := by
    induction text with
    | nil => rfl
    | cons c text ih =>
      rw [items, List.map_cons, Node.depthAll, Node.depth, Nat.zero_max]
      exact ih
  rw [tree_eq]
  split
  · exact Nat.zero_le 1
  · rename_i node hnode
    rw [hnode, Node.depthAll, Node.depthAll, Nat.max_zero] at hdepth
    omega
  · rw [Node.depth]
    omega

theorem Flags.weight_tree :
    (f.tree text).weight > maxWeight ↔ weightAll (f.items text) > maxWeight := by
  rw [tree_eq]
  split
  · rename_i hnil
    rw [hnil, Node.weight, weightAll]
    decide
  · rename_i node hnode
    rw [hnode, weightAll, weightAll, Nat.add_zero]
  · rw [Node.weight]

theorem Flags.simplify_tree : (f.tree text).simplify = f.tree text := by
  have hitems : Node.simplifyAll (f.items text) = f.items text := simplifyAll_set _ text
  rw [tree_eq]
  split
  · rfl
  · rename_i node hnode
    rw [hnode, Node.simplifyAll, Node.simplifyAll] at hitems
    exact (List.cons.inj hitems).1
  · rw [Node.simplify, hitems]

theorem Flags.ofNode_tree :
    Matcher.ofNode (f.tree text) [] = Matcher.ofNode (.concat (f.items text)) [] := by
  rw [tree_eq]
  cases text with
  | nil => rfl
  | cons c text =>
    cases text with
    | nil => rfl
    | cons d text => rfl

end Compiling

theorem length_le_flatMap_escapeLiteral (text : List Char) :
    text.length ≤ (text.flatMap escapeLiteral).length := by
  induction text with
  | nil => simp
  | cons c text ih =>
    have hc : 0 < (escapeLiteral c).length := by
      unfold escapeLiteral
      split <;> simp
    rw [List.flatMap_cons, List.length_append, List.length_cons]
    omega

variable {f : Flags} (hverbose : f.verbose = false) (hunicode : f.unicode = true)
include hverbose hunicode

theorem readPattern_literalPattern (text : String) :
    readPattern f (literalPattern text) = .ok (f.tree text.toList, []) := by
  have hfuel := length_le_flatMap_escapeLiteral text.toList
  have hbody : body false ((text.toList.flatMap escapeLiteral).length + 1) { flags := f } [] []
      (text.toList.flatMap escapeLiteral) = .ok (f.tree text.toList, { flags := f }, []) := by
    rw [body_literal hverbose hunicode [] [] (by omega), List.append_nil]
    rfl
  have hdepth : ¬ (f.tree text.toList).depth > maxDepth := by
    have := f.depth_tree text.toList
    unfold maxDepth
    omega
  unfold readPattern literalPattern
  rw [String.toList_ofList]
  simp only [hbody, if_neg hdepth]

/-- The pattern of a text is compiled to the program of the text. -/
theorem Matcher.compile_literalPattern (text : String) :
    Matcher.compile f (literalPattern text) = Matcher.compileLiteral f text := by
  have hweight := f.weight_tree text.toList
  unfold Matcher.compile Matcher.compileLiteral
  simp only [readPattern_literalPattern hverbose hunicode, bind, Except.bind, f.simplify_tree,
    hweight, f.ofNode_tree]
  rfl

end TableSearch.Regex
