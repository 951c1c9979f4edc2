import CommandBridge.TypeScript.Module
import Mathlib.Data.List.Chain

/-!
# Comments of a client module

The texts for a reader are written as block comments. A comment is ended by the first `*/` in it,
so the text inside must have none: not of its own, not where its lines are put together and not
where it meets the marks that are written around it.
-/

set_option autoImplicit false

namespace CommandBridge.TypeScript

def Endless (cs : List Char) : Prop := cs.IsChain fun a b => ¬(a = '*' ∧ b = '/')

instance : DecidablePred Endless := fun cs =>
  inferInstanceAs (Decidable (cs.IsChain fun a b => ¬(a = '*' ∧ b = '/')))

section Endless

variable {a b : List Char}

theorem not_endless (front back : List Char) : ¬Endless (front ++ '*' :: '/' :: back) := by
  intro h
  have mark : Endless ('*' :: '/' :: back) := (List.isChain_append.mp h).2.1
  exact (List.isChain_cons_cons.mp mark).1 ⟨rfl, rfl⟩

/-- Between endless texts an end arises only where a star meets a slash. -/
theorem Endless.append (ha : Endless a) (hb : Endless b)
    (meet : a.getLast? ≠ some '*' ∨ b.head? ≠ some '/') : Endless (a ++ b) := by
  apply List.isChain_append.mpr
  refine ⟨ha, hb, ?_⟩
  rintro x last y first ⟨rfl, rfl⟩
  rcases meet with notStar | notSlash
  · exact notStar last
  · exact notSlash first

theorem endless_join {texts : List String}
    (each : ∀ t ∈ texts, Endless t.toList ∧ t.toList.head? = some ' ') :
    Endless (String.join texts).toList ∧ (String.join texts).toList.head? ≠ some '/' := by
  induction texts with
  | nil => exact ⟨.nil, by simp⟩
  | cons t rest ih =>
    rw [List.forall_mem_cons] at each
    obtain ⟨⟨endless, first⟩, later⟩ := each
    rw [String.join_cons, String.toList_append, List.head?_append, first]
    exact ⟨endless.append (ih later).1 (.inr (ih later).2), by simp⟩

theorem commentText_head? (cs : List Char) : (commentText cs).head? = cs.head? := by
  fun_cases commentText cs <;> rfl

/-- The backslash goes between the two characters of an end, so no new one arises. -/
theorem endless_commentText (cs : List Char) : Endless (commentText cs) := by
  fun_induction commentText cs with
  | case1 rest ih =>
    have slash : Endless ('/' :: commentText rest) := by
      apply List.isChain_cons.mpr
      exact ⟨by simp, ih⟩
    exact .cons_cons (by simp) (.cons_cons (by simp) slash)
  | case2 c rest plain ih =>
    apply List.isChain_cons.mpr
    refine ⟨?_, ih⟩
    rintro d first ⟨rfl, rfl⟩
    rw [commentText_head?] at first
    cases rest with
    | nil => cases first
    | cons d rest =>
      cases first
      exact plain rest rfl rfl
  | case3 => exact .nil

example : commentText "src/**/*.rs */".toList = "src/**\\/*.rs *\\/".toList := by decide

end Endless

/-- A block comment and the line break after it: `*/` stands in it once, right before that line
break. -/
structure IsComment (text : String) : Prop where
  opens : ∃ indent rest, (∀ c ∈ indent.toList, c = ' ') ∧ text = indent ++ "/**" ++ rest
  ends : ∃ front, text = front ++ "*/\n"
  once : ∀ front back, text = front ++ "*/" ++ back → back = "\n"

/-- The last character of a text with an end in it belongs to that end or stands behind it. -/
theorem end_before_last {cs front back : List Char} {c : Char}
    (same : cs ++ [c] = front ++ '*' :: '/' :: back) :
    (back = [] ∧ c = '/') ∨ ∃ before, back = before ++ [c] ∧ cs = front ++ '*' :: '/' :: before := by
  rcases List.eq_nil_or_concat back with rfl | ⟨before, last, rfl⟩
  · have split : cs ++ [c] = (front ++ ['*']) ++ ['/'] := by simpa using same
    obtain ⟨-, mark⟩ := List.append_inj' split rfl
    cases mark
    exact .inl ⟨rfl, rfl⟩
  · have split : cs ++ [c] = (front ++ '*' :: '/' :: before) ++ [last] := by simpa using same
    obtain ⟨before_same, mark⟩ := List.append_inj' split rfl
    cases mark
    exact .inr ⟨before, List.concat_eq_append, before_same⟩

/-- The end that is written after an endless text is the only one. -/
theorem back_of_endless {inside front back : List Char} (endless : Endless (inside ++ ['*']))
    (same : inside ++ ['*', '/', '\n'] = front ++ '*' :: '/' :: back) : back = ['\n'] := by
  have lineBreak : (inside ++ ['*', '/']) ++ ['\n'] = front ++ '*' :: '/' :: back := by simpa using same
  rcases end_before_last lineBreak with ⟨-, mark⟩ | ⟨before, rfl, inner⟩
  · cases mark
  · have slash : (inside ++ ['*']) ++ ['/'] = front ++ '*' :: '/' :: before := by simpa using inner
    rcases end_before_last slash with ⟨rfl, -⟩ | ⟨earlier, rfl, within⟩
    · rfl
    · rw [within] at endless
      exact absurd endless (not_endless front earlier)

/-- A text that is endless itself is a comment between the marks that are written around it. -/
theorem isComment_of_endless (indent : String) {inside : String} (blank : ∀ c ∈ indent.toList, c = ' ')
    (mark : Endless (indent.toList ++ "/**".toList)) (endless : Endless inside.toList)
    (start : inside.toList.head? ≠ some '/') : IsComment (indent ++ "/**" ++ inside ++ " */\n") where
  opens := ⟨indent, inside ++ " */\n", blank, String.append_assoc⟩
  ends := ⟨indent ++ "/**" ++ inside ++ " ", by simp [String.append_assoc]⟩
  once := by
    intro front back same
    have opened := mark.append endless (.inr start)
    have whole : Endless ((indent.toList ++ "/**".toList ++ inside.toList ++ [' ']) ++ ['*']) := by
      rw [List.append_assoc]
      exact opened.append (b := [' ', '*']) (by decide) (.inr (by decide))
    apply String.toList_injective
    have chars := congrArg String.toList same
    have split : (indent.toList ++ "/**".toList ++ inside.toList ++ [' ']) ++ ['*', '/', '\n'] =
        front.toList ++ '*' :: '/' :: back.toList := by
      simpa using chars
    exact back_of_endless whole split

theorem endless_docLine (line : List Char) :
    Endless (docLine line).toList ∧ (docLine line).toList.head? = some ' ' := by
  unfold docLine
  by_cases blank : (Text.trim line).isEmpty = true
  · rw [if_pos blank]
    exact ⟨by decide, rfl⟩
  · rw [if_neg blank, String.toList_append, String.toList_append,
      String.toList_ofList (l := commentText (Text.trim line))]
    have escaped := endless_commentText (Text.trim line)
    have started : Endless (" * ".toList ++ commentText (Text.trim line)) :=
      Endless.append (by decide) escaped (.inl (by decide))
    exact ⟨started.append (b := "\n".toList) (by decide) (.inr (by decide)), rfl⟩

theorem docBlock_cases (doc : Option String) : docBlock doc = "" ∨ IsComment (docBlock doc) := by
  cases doc with
  | none => exact .inl rfl
  | some doc =>
    unfold docBlock
    by_cases blank : (Text.trim doc.toList).isEmpty = true
    · exact .inl (if_pos blank)
    · right
      dsimp only
      rw [if_neg blank]
      have each : ∀ t ∈ (Text.lines (Text.trim doc.toList)).map docLine,
          Endless t.toList ∧ t.toList.head? = some ' ' :=
        List.forall_mem_map.mpr fun line _ => endless_docLine line
      obtain ⟨lines, first⟩ := endless_join each
      have inside : Endless ("\n" ++ String.join ((Text.lines (Text.trim doc.toList)).map docLine)).toList := by
        rw [String.toList_append]
        exact Endless.append (by decide) lines (.inr first)
      have comment := isComment_of_endless "" (by simp) (by decide) inside (by simp)
      simpa [← String.append_assoc] using comment

theorem fieldComment_cases (d : Option String) : fieldComment d = "" ∨ IsComment (fieldComment d) := by
  cases d with
  | none => exact .inl rfl
  | some d =>
    right
    have inside : Endless (" " ++ String.ofList (commentText (Text.trim d.toList))).toList := by
      rw [String.toList_append, String.toList_ofList (l := commentText (Text.trim d.toList))]
      exact Endless.append (by decide) (endless_commentText _) (.inl (by decide))
    have comment := isComment_of_endless "    " (by simp) (by decide) inside (by simp)
    simpa [fieldComment, ← String.append_assoc] using comment

end CommandBridge.TypeScript
