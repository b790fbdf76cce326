import SiteModules.Proofs.Naming.Scope

namespace SiteModules.ScopedName

variable {s o rest line : String}

structure Scoped (s o rest : String) : Prop where
  written : s = "@" ++ o ++ "/" ++ rest
  scope_ne : o ≠ ""
  scope : '/' ∉ o.toList
  rest_ne : rest ≠ ""

theorem Scoped.toList_eq (h : Scoped s o rest) :
    s.toList = '@' :: (o.toList ++ '/' :: rest.toList) := by
  simp [h.written]

structure OneLine (rest line : String) : Prop where
  ne : line ≠ ""
  notMem : '\n' ∉ line.toList
  eq : rest = line ∨ rest = line ++ "\n"

theorem oneLine_iff :
    OneLine rest line ↔ onlyLine? rest.toList = some line.toList ∧ line.toList ≠ [] := by
  have hfeed : rest = line ++ "\n" ↔ rest.toList = line.toList ++ ['\n'] := by
    rw [← String.toList_inj, String.toList_append]
    rfl
  have hne : line ≠ "" ↔ line.toList ≠ [] := not_congr String.toList_eq_nil_iff.symm
  rw [onlyLine?_eq_some_iff, String.toList_inj, ← hfeed, ← hne]
  constructor
  · intro h
    exact ⟨⟨h.notMem, h.eq⟩, h.ne⟩
  · rintro ⟨⟨hline, heq⟩, hempty⟩
    exact ⟨hempty, hline, heq⟩

theorem OneLine.refl (hne : line ≠ "") (hline : '\n' ∉ line.toList) : OneLine line line :=
  ⟨hne, hline, .inl rfl⟩

theorem OneLine.rest_ne (h : OneLine rest line) : rest ≠ "" := by
  obtain rfl | rfl := h.eq
  · exact h.ne
  · simp

/-- All ways in which a name comes apart. -/
inductive Parts (s : String) : ScopedName → Prop
  | apart {o rest line : String} :
      Scoped s o rest → OneLine rest line → Parts s ⟨"@" ++ o, line⟩
  | whole : (∀ o rest line, Scoped s o rest → ¬OneLine rest line) → Parts s ⟨"", s⟩

theorem split?_of_scoped (h : Scoped s o rest) (hline : OneLine rest line) :
    split? s.toList = some ('@' :: o.toList, line.toList) := by
  obtain ⟨honly, hne⟩ := oneLine_iff.1 hline
  refine split?_eq_some_iff.2 ⟨o.toList, rest.toList, h.toList_eq, rfl, ?_, h.scope, honly, hne⟩
  exact mt String.toList_eq_nil_iff.1 h.scope_ne

theorem parts_ofName (s : String) : Parts s (ofName s) := by
  cases hsplit : split? s.toList with
  | none =>
    rw [ofName_of_split?_eq_none hsplit]
    refine .whole ?_
    intro o rest line h hline
    cases hsplit.symm.trans (split?_of_scoped h hline)
  | some p =>
    obtain ⟨org, name⟩ := p
    rw [ofName_of_split?_eq_some hsplit]
    obtain ⟨o, rest, hchars, rfl, ho, hslash, honly, hname⟩ := split?_eq_some_iff.1 hsplit
    have horg : String.ofList ('@' :: o) = "@" ++ String.ofList o :=
      String.toList_inj.1 (by simp)
    rw [horg]
    have hline : OneLine (String.ofList rest) (String.ofList name) :=
      oneLine_iff.2 (by simpa using ⟨honly, hname⟩)
    have hs : Scoped s (String.ofList o) (String.ofList rest) := by
      refine ⟨?_, mt String.ofList_eq_empty_iff.1 ho, by simpa using hslash, hline.rest_ne⟩
      exact String.toList_inj.1 (by simp [hchars])
    exact .apart hs hline

theorem Scoped.ofName_eq (h : Scoped s o rest) (hline : OneLine rest line) :
    ofName s = ⟨"@" ++ o, line⟩ := by
  rw [ofName_of_split?_eq_some (split?_of_scoped h hline)]
  congr 1
  · exact String.toList_inj.1 (by simp)
  · exact String.ofList_toList

theorem exists_scoped (h : (ofName s).org ≠ "") :
    ∃ o rest, Scoped s o rest ∧ OneLine rest (ofName s).name ∧ (ofName s).org = "@" ++ o := by
  have hparts := parts_ofName s
  generalize ofName s = p at *
  cases hparts with
  | apart hs hline => exact ⟨_, _, hs, hline, rfl⟩
  | whole => exact absurd rfl h

theorem notMem_name_ofName (h : (ofName s).org ≠ "") : '\n' ∉ (ofName s).name.toList := by
  obtain ⟨_, _, _, hline, _⟩ := exists_scoped h
  exact hline.notMem

theorem ofName_append {name : String} (h : (ofName s).org ≠ "") (hne : name ≠ "")
    (hline : '\n' ∉ name.toList) :
    ofName ((ofName s).org ++ "/" ++ name) = ⟨(ofName s).org, name⟩ := by
  obtain ⟨o, rest, hs, -, horg⟩ := exists_scoped h
  rw [horg]
  exact Scoped.ofName_eq ⟨rfl, hs.scope_ne, hs.scope, hne⟩ (.refl hne hline)

structure Lossless (s : String) : Prop where
  org : (ofName s).org ≠ "" ↔ ∃ o rest, Scoped s o rest
  parts : ∀ o rest, Scoped s o rest →
    ofName s = ⟨"@" ++ o, rest⟩ ∧ (ofName s).org ++ "/" ++ (ofName s).name = s
  whole : (¬∃ o rest, Scoped s o rest) → ofName s = ⟨"", s⟩

theorem Lossless.notMem (h : Lossless s) (hs : Scoped s o rest) : '\n' ∉ rest.toList := by
  have hline := notMem_name_ofName (h.org.2 ⟨o, rest, hs⟩)
  rw [(h.parts o rest hs).1] at hline
  exact hline

theorem lossless_iff_notMem (s : String) :
    Lossless s ↔ ∀ o rest, Scoped s o rest → '\n' ∉ rest.toList := by
  constructor
  · intro h o rest hs
    exact h.notMem hs
  · intro h
    have hwritten : (ofName s).org ≠ "" → ∃ o rest, Scoped s o rest := by
      intro hscope
      obtain ⟨o, rest, hs, -⟩ := exists_scoped hscope
      exact ⟨o, rest, hs⟩
    have hparts : ∀ o rest, Scoped s o rest → ofName s = ⟨"@" ++ o, rest⟩ := by
      intro o rest hs
      exact hs.ofName_eq (.refl hs.rest_ne (h o rest hs))
    refine ⟨⟨hwritten, ?_⟩, ?_, ?_⟩
    · rintro ⟨o, rest, hs⟩
      simp [hparts o rest hs]
    · intro o rest hs
      refine ⟨hparts o rest hs, ?_⟩
      rw [hparts o rest hs, hs.written]
    · intro hno
      exact ofName_of_org_eq (not_ne_iff.1 (mt hwritten hno))

theorem scoped_acme (rest : String) (hne : rest ≠ "") : Scoped ("@acme/" ++ rest) "acme" rest where
  written := rfl
  scope_ne := by decide
  scope := by decide
  rest_ne := hne

/-- A line feed at the end is lost, and one in front of more text hides the scope. -/
theorem not_lossless_lineFeed :
    ofName "@acme/dark\n" = ⟨"@acme", "dark"⟩ ∧ ¬Lossless "@acme/dark\n" ∧
    ofName "@acme/dark\nred" = ⟨"", "@acme/dark\nred"⟩ ∧ ¬Lossless "@acme/dark\nred" := by
  have hend : '\n' ∈ "dark\n".toList := by decide
  have hline : '\n' ∈ "dark\nred".toList := by decide
  refine ⟨by decide, ?_, by decide, ?_⟩
  · intro h
    exact h.notMem (scoped_acme "dark\n" (by decide)) hend
  · intro h
    exact h.notMem (scoped_acme "dark\nred" (by decide)) hline

end SiteModules.ScopedName
