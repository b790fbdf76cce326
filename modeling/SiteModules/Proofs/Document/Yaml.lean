import SiteModules.Document.Yaml

namespace SiteModules.Yaml

namespace Tokens

-- A plain `rfl` would have the whole scanner opened.
theorem readFrom_succ (fuel : Nat) (l : Layout) : readFrom (fuel + 1) l =
    if l.isAtEnd then
      match l.finish with
      | .ok l => ⟨l.tokens.reverse, none⟩
      | .error e => l.ends e
    else match l.step with
      | .ok l => readFrom fuel l
      | .error e => l.ends e := by
  exact id rfl

theorem readFrom_of_end {fuel : Nat} {l l' : Layout} (hend : l.isAtEnd = true)
    (hfinish : l.finish = .ok l') : readFrom (fuel + 1) l = ⟨l'.tokens.reverse, none⟩ := by
  rw [readFrom_succ, hend, if_pos rfl, hfinish]

theorem readFrom_of_step {fuel : Nat} {l l' : Layout} (hend : l.isAtEnd = false)
    (hstep : l.step = .ok l') : readFrom (fuel + 1) l = readFrom fuel l' := by
  rw [readFrom_succ, hend, if_neg Bool.false_ne_true, hstep]

theorem readFrom_of_steps {l : Nat → Layout} {n : Nat}
    (h : ∀ i < n, (l i).isAtEnd = false ∧ (l i).step = .ok (l (i + 1))) (fuel : Nat) :
    readFrom (fuel + n) (l 0) = readFrom fuel (l n) := by
  induction n generalizing fuel with
  | zero => rfl
  | succ n ih =>
    obtain ⟨hend, hstep⟩ := h n (Nat.lt_succ_self n)
    have hbefore := ih (fun i hi => h i (Nat.lt_succ_of_lt hi)) (fuel + 1)
    rw [Nat.add_right_comm, Nat.add_assoc] at hbefore
    rw [hbefore, readFrom_of_step hend hstep]

end Tokens

theorem ownEntries_singleton (k : List Char) (n : Node) :
    ownEntries (.mapping .mapping [(.scalar .text k, n)]) = .ok [(.scalar .text k, n)] := by
  have hkey : (Node.scalar .text k).tag ≠ .merge := by
    intro h
    cases h
  rw [ownEntries, splitEntries, if_neg hkey, splitEntries]
  rfl

theorem toValue_singleton {fuel : Nat} {k : List Char} {n : Node} {v : Value}
    (hv : toValue (fuel + 1) n = .ok v) :
    toValue (fuel + 4) (.mapping .mapping [(.scalar .text k, n)]) =
      .ok (.mapping [(.text (String.ofList k), v)]) := by
  have hfields : toFields (fuel + 2) [(.scalar .text k, n)] =
      .ok [(.text (String.ofList k), v)] := by
    rw [toFields, hv]
    rfl
  rw [toValue]
  change (collection (fuel + 3) .mapping _).inside = _
  rw [collection, ownEntries_singleton]
  change Reading.inside (toFields (fuel + 2) _ >>= _) = _
  rw [hfields]
  rfl

theorem readLined_of_node {cs : List Char} {n : Node} {v : Value}
    (hallowed : cs.all isAllowed = true)
    (hnode : Node.ofTokens (Tokens.ofChars cs) = .ok (some n))
    (hvalue : toValue (4 * cs.length + 8) n = .ok v) : readLined cs = .ok v := by
  rw [readLined, hallowed, hnode]
  simp only [Bool.not_true, Bool.false_eq_true, if_false, bind, Except.bind, hvalue]
  rfl

section Nested

variable (outer inner word : List Char)

def nested : List Char :=
  outer ++ ':' :: '\n' :: ' ' :: ' ' :: inner ++ ':' :: ' ' :: word ++ ['\n']

def scanned : Nat → Layout
  | 0 => .start (nested outer inner word)
  | 1 => ⟨⟨':' :: '\n' :: ' ' :: ' ' :: inner ++ ':' :: ' ' :: word ++ ['\n'], outer.length, 0,
      outer.length⟩, [.scalar outer true], 1, [], 0, false, [⟨0, 0, false, 0, 0, 0⟩]⟩
  | 2 => ⟨⟨'\n' :: ' ' :: ' ' :: inner ++ ':' :: ' ' :: word ++ ['\n'], outer.length + 1, 0,
      outer.length + 1⟩, [.value, .scalar outer true, .key, .blockMapping], 4, [0], 0, false, []⟩
  | 3 => ⟨⟨':' :: ' ' :: word ++ ['\n'], outer.length + 4 + inner.length, 1, 2 + inner.length⟩,
      [.scalar inner true, .value, .scalar outer true, .key, .blockMapping], 5, [0], 0, false,
      [⟨0, 4, false, outer.length + 4, 1, 2⟩]⟩
  | 4 => ⟨⟨' ' :: word ++ ['\n'], outer.length + 5 + inner.length, 1, 3 + inner.length⟩,
      [.value, .scalar inner true, .key, .blockMapping, .value, .scalar outer true, .key,
        .blockMapping], 8, [2, 0], 0, false, []⟩
  | _ => ⟨⟨[], outer.length + 7 + inner.length + word.length, 2, 0⟩,
      [.scalar word true, .value, .scalar inner true, .key, .blockMapping, .value,
        .scalar outer true, .key, .blockMapping], 9, [2, 0], 0, true, []⟩

def nestedTokens : List Token :=
  [.blockMapping, .key, .scalar outer true, .value, .blockMapping, .key, .scalar inner true,
    .value, .scalar word true, .blockEnd, .blockEnd, .streamEnd]

structure Scans : Prop where
  steps : ∀ i < 5, (scanned outer inner word i).isAtEnd = false ∧
    (scanned outer inner word i).step = .ok (scanned outer inner word (i + 1))
  stops : (scanned outer inner word 5).isAtEnd = true
  ends : ∃ last, (scanned outer inner word 5).finish = .ok last ∧
    last.tokens.reverse = nestedTokens outer inner word
  outerText : Tag.ofPlain outer = .text
  innerText : Tag.ofPlain inner = .text
  allowed : (nested outer inner word).all isAllowed = true
  lines : Text.unixLines (nested outer inner word) = nested outer inner word

variable {outer inner word}

theorem Scans.tokens (h : Scans outer inner word) :
    Tokens.ofChars (nested outer inner word) = ⟨nestedTokens outer inner word, none⟩ := by
  obtain ⟨fuel, hfuel⟩ : ∃ fuel, (nested outer inner word).length + 1 = fuel + 1 + 5 := by
    refine ⟨outer.length + inner.length + word.length + 2, ?_⟩
    simp only [nested, List.length_append, List.length_cons, List.length_nil]
    omega
  change Tokens.readFrom ((nested outer inner word).length + 1) (scanned outer inner word 0) = _
  obtain ⟨last, hlast, htokens⟩ := h.ends
  rw [hfuel, Tokens.readFrom_of_steps h.steps, Tokens.readFrom_of_end h.stops hlast, htokens]

theorem Scans.node (h : Scans outer inner word) :
    Node.ofTokens (Tokens.ofChars (nested outer inner word)) =
      .ok (some (.mapping .mapping [(.scalar .text outer,
        .mapping .mapping [(.scalar .text inner, .scalar (.ofPlain word) word)])])) := by
  have hbuilt : Node.ofTokens ⟨nestedTokens outer inner word, none⟩ =
      .ok (some (.mapping .mapping [(.scalar (.ofPlain outer) outer,
        .mapping .mapping [(.scalar (.ofPlain inner) inner, .scalar (.ofPlain word) word)])])) := by
    exact id rfl
  rw [h.tokens, hbuilt, h.outerText, h.innerText]

theorem Scans.read {v : Value} (h : Scans outer inner word)
    (hword : ∀ fuel, toValue (fuel + 1) (.scalar (.ofPlain word) word) = .ok v) :
    Yaml.read (nested outer inner word) = .ok (.mapping [(.text (String.ofList outer),
      .mapping [(.text (String.ofList inner), v)])]) := by
  rw [Yaml.read, h.lines]
  exact readLined_of_node h.allowed h.node (toValue_singleton (toValue_singleton (hword _)))

end Nested

end SiteModules.Yaml
