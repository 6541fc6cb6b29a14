import TextTemplate.Report.Drawing

/-!
# Lines and columns

The line and the column of a place in a source, counted from one, are found by a walk over the
characters in front of the place (`locationAt`): each one leads to the next column, or to the next
line if a line ends behind it. A drawing finds them in the list of the lines of the source
(`locationIn`). Both agree, but for the end of a source that ends with a line break
(`location_in_lines_of_iff`): there the next line begins, of which the list knows nothing. No two
places have the same location (`precedes_of_lt`).
-/

namespace TextTemplate.Report

/-! ## Walking over characters -/

/-- Whether a line ends between the character and what follows it. A carriage return and a line feed
end a line together. -/
def breaksLine (c : Char) (rest : List Char) : Bool :=
  endsLine c && !(c == '\r' && rest.head? == some '\n')

/-- The location of the place that is `index` characters further on, where the characters begin at
the given line and column. -/
def locationFrom (line column : Nat) : Nat → List Char → Nat × Nat
  | index + 1, c :: rest =>
    if breaksLine c rest then locationFrom (line + 1) 1 index rest
    else locationFrom line (column + 1) index rest
  | _, _ => (line, column)

/-- The line and the column, counted from one, of the place that is `index` characters into the
source. -/
def locationAt (source : List Char) (index : Nat) : Nat × Nat :=
  locationFrom 1 1 index source

/-- The location lies in front of the other one. -/
def Precedes (first second : Nat × Nat) : Prop :=
  first.1 < second.1 ∨ first.1 = second.1 ∧ first.2 < second.2

/-- The location behind a character, which stands at the given one. -/
def locationBehind (c : Char) (rest : List Char) (location : Nat × Nat) : Nat × Nat :=
  if breaksLine c rest then (location.1 + 1, 1) else (location.1, location.2 + 1)

theorem Precedes.trans {first second third : Nat × Nat} (h : Precedes first second)
    (h' : Precedes second third) : Precedes first third := by
  unfold Precedes at *
  omega

theorem Precedes.ne {first second : Nat × Nat} (h : Precedes first second) : first ≠ second := by
  rintro rfl
  unfold Precedes at h
  omega

/-- A character leads on. -/
theorem precedes_location_behind (c : Char) (rest : List Char) (location : Nat × Nat) :
    Precedes location (locationBehind c rest location) := by
  unfold locationBehind
  split
  · exact .inl (Nat.lt_succ_self _)
  · exact .inr ⟨rfl, Nat.lt_succ_self _⟩

/-- The place behind a character is at the location behind it. -/
theorem location_from_length (line column : Nat) (before : List Char) (c : Char)
    (rest : List Char) :
    locationFrom line column (before.length + 1) (before ++ c :: rest) =
      locationBehind c rest (locationFrom line column before.length (before ++ c :: rest)) := by
  induction before generalizing line column with
  | nil => rfl
  | cons d before ih =>
      rw [List.length_cons, List.cons_append, locationFrom, locationFrom]
      split
      · exact ih (line + 1) 1
      · exact ih line (column + 1)

/-- Each character of a source leads on. -/
theorem precedes_succ {source : List Char} {index : Nat} (h : index < source.length) :
    Precedes (locationAt source index) (locationAt source (index + 1)) := by
  have hsource : source = source.take index ++ source[index] :: source.drop (index + 1) := by
    rw [← List.drop_eq_getElem_cons h, List.take_append_drop]
  have hlength : (source.take index).length = index := List.length_take_of_le (Nat.le_of_lt h)
  have hbehind := location_from_length 1 1 (source.take index) source[index]
    (source.drop (index + 1))
  rw [← hsource, hlength] at hbehind
  unfold locationAt
  rw [hbehind]
  exact precedes_location_behind _ _ _

/-- Further on in a source, locations are further on. -/
theorem precedes_of_lt {source : List Char} {index other : Nat} (h : index < other)
    (hother : other ≤ source.length) :
    Precedes (locationAt source index) (locationAt source other) := by
  induction other with
  | zero => exact absurd h (Nat.not_lt_zero index)
  | succ other ih =>
      have hlast := precedes_succ hother
      rcases Nat.lt_succ_iff_lt_or_eq.mp h with hlt | rfl
      · exact (ih hlt (Nat.le_of_lt hother)).trans hlast
      · exact hlast

/-! ## Lines of a source -/

/-- A character ends the line or goes on with it. -/
theorem lines_from_cons (line : List Char) (offset : Nat) (c : Char) (rest : List Char) :
    linesFrom line offset (c :: rest) =
      if breaksLine c rest then
        ⟨offset, (c :: line).reverse⟩ :: linesFrom [] (offset + (line.length + 1)) rest
      else linesFrom (c :: line) offset rest := by
  by_cases hpair : c = '\r' ∧ rest.head? = some '\n'
  · obtain ⟨rfl, hrest⟩ := hpair
    obtain ⟨more, rfl⟩ := List.head?_eq_some_iff.mp hrest
    -- The line ends behind the line feed.
    have hreturn : breaksLine '\r' ('\n' :: more) = false := rfl
    have hfeed : endsLine '\n' = true := rfl
    rw [hreturn, if_neg Bool.false_ne_true, linesFrom, linesFrom, hfeed, if_pos rfl]
    simp
  · have hbreaks : breaksLine c rest = endsLine c := by
      have hnot : (c == '\r' && rest.head? == some '\n') = false := by
        rw [Bool.eq_false_iff]
        simpa using hpair
      rw [breaksLine, hnot, Bool.not_false, Bool.and_true]
    rw [hbreaks, linesFrom]
    · simp only [List.length_reverse, List.length_cons]
    · rintro more rfl rfl
      exact hpair ⟨rfl, rfl⟩

/-- The first line is the one that has been begun, and the others begin behind its characters; all
lines begin in front of a character. -/
theorem exists_lines_from (line : List Char) (offset : Nat) {cs : List Char}
    (h : line ≠ [] ∨ cs ≠ []) :
    ∃ first more, linesFrom line offset cs = first :: more ∧ first.offset = offset ∧
      ∀ next ∈ more, offset + line.length < next.offset ∧
        next.offset < offset + line.length + cs.length := by
  induction cs generalizing line offset with
  | nil =>
      have hline : line.isEmpty = false := by simpa using h
      exact ⟨⟨offset, line.reverse⟩, [], by rw [linesFrom, hline]; rfl, rfl, List.forall_mem_nil _⟩
  | cons c rest ih =>
      rw [lines_from_cons]
      split
      · cases rest with
        | nil => exact ⟨_, [], rfl, rfl, List.forall_mem_nil _⟩
        | cons d rest =>
            obtain ⟨second, more, hlines, hoffset, hmore⟩ :=
              ih [] (offset + (line.length + 1)) (.inr (List.cons_ne_nil d rest))
            simp only [List.length_nil, List.length_cons] at hmore ⊢
            refine ⟨_, second :: more, by rw [hlines], rfl, ?_⟩
            refine List.forall_mem_cons.mpr ⟨by omega, fun next hnext => ?_⟩
            have hbounds := hmore next hnext
            omega
      · obtain ⟨first, more, hlines, hoffset, hmore⟩ :=
          ih (c :: line) offset (.inl (List.cons_ne_nil c line))
        simp only [List.length_cons] at hmore ⊢
        refine ⟨first, more, hlines, hoffset, fun next hnext => ?_⟩
        have hbounds := hmore next hnext
        omega

/-- The location that the lines give to a place: the last line that begins in front of the place or
at it, and the distance from where that line begins. -/
def locationIn (lines : List Line) (place : Nat) : Nat × Nat :=
  let number := (lines.filter (·.offset ≤ place)).length - 1
  (number + 1, place - ((lines[number]?.map (·.offset)).getD 0) + 1)

/-- A place in the first line. -/
theorem location_in_first {first : Line} {more : List Line} {place : Nat}
    (hfirst : first.offset ≤ place) (hmore : ∀ next ∈ more, place < next.offset) :
    locationIn (first :: more) place = (1, place - first.offset + 1) := by
  have hfilter : (first :: more).filter (·.offset ≤ place) = [first] := by
    rw [List.filter_cons_of_pos (by simpa using hfirst), List.cons_inj_right,
      List.filter_eq_nil_iff]
    intro next hnext
    have hlt := hmore next hnext
    simpa using hlt
  rw [locationIn, hfilter]
  rfl

/-- A place behind the first line. -/
theorem location_in_more {first second : Line} {more : List Line} {place : Nat}
    (hfirst : first.offset ≤ place) (hsecond : second.offset ≤ place) :
    locationIn (first :: second :: more) place =
      ((locationIn (second :: more) place).1 + 1, (locationIn (second :: more) place).2) := by
  rw [locationIn, locationIn, List.filter_cons_of_pos (by simpa using hfirst),
    List.filter_cons_of_pos (by simpa using hsecond)]
  simp

/-- Where a character stands, the lines from there on tell what a walk over the characters finds. -/
theorem location_from_eq {cs : List Char} {index : Nat} (h : index < cs.length)
    (number : Nat) (line : List Char) (offset : Nat) :
    locationFrom (number + 1) (line.length + 1) index cs =
      ((locationIn (linesFrom line offset cs) (offset + line.length + index)).1 + number,
        (locationIn (linesFrom line offset cs) (offset + line.length + index)).2) := by
  induction cs generalizing index number line offset with
  | nil => exact absurd h (Nat.not_lt_zero index)
  | cons c rest ih =>
      cases index with
      | zero =>
          obtain ⟨first, more, hlines, hoffset, hmore⟩ :=
            exists_lines_from line offset (.inr (List.cons_ne_nil c rest))
          have hfirst : locationIn (first :: more) (offset + line.length) =
              (1, offset + line.length - first.offset + 1) :=
            location_in_first (by omega) fun next hnext => (hmore next hnext).1
          rw [hlines, Nat.add_zero (offset + line.length), hfirst, hoffset, Nat.add_sub_cancel_left,
            Nat.add_comm 1 number]
          rfl
      | succ index =>
          have hindex : index < rest.length := Nat.lt_of_succ_lt_succ h
          have hrest : rest ≠ [] := List.ne_nil_of_length_pos (Nat.zero_lt_of_lt hindex)
          rw [lines_from_cons, locationFrom]
          split
          · -- The place lies behind the line that ends here.
            obtain ⟨second, more, hlines, hoffset, -⟩ :=
              exists_lines_from [] (offset + (line.length + 1)) (.inr hrest)
            have hmore := ih hindex (number + 1) [] (offset + (line.length + 1))
            have hplace : offset + (line.length + 1) + ([] : List Char).length + index =
                offset + line.length + (index + 1) := by
              rw [List.length_nil]
              omega
            rw [hplace, hlines] at hmore
            have hnext : locationIn (⟨offset, (c :: line).reverse⟩ :: second :: more)
                (offset + line.length + (index + 1)) = _ :=
              location_in_more (by dsimp only; omega) (by omega)
            rw [hlines, hnext]
            refine hmore.trans (Prod.ext ?_ rfl)
            exact Nat.add_right_comm _ number 1
          · have hmore := ih hindex number (c :: line) offset
            rw [List.length_cons] at hmore
            have hplace : offset + (line.length + 1) + index =
                offset + line.length + (index + 1) := by omega
            rw [hmore, hplace]

/-- The lines of a source tell where its characters stand. -/
theorem location_in_lines_of {source : List Char} {index : Nat} (h : index < source.length) :
    locationIn (linesOf source) index = locationAt source index := by
  have hne : source ≠ [] := List.ne_nil_of_length_pos (Nat.zero_lt_of_lt h)
  have hwalk := location_from_eq h 0 [] 0
  rw [linesOf, if_neg (by simpa using hne)]
  rw [List.length_nil, Nat.zero_add, Nat.zero_add] at hwalk
  exact hwalk.symm

/-- To the lines of a source, its end is behind its last character, in the same line. -/
theorem location_in_lines_of_length {source : List Char} (h : source ≠ []) :
    locationIn (linesOf source) source.length =
      ((locationAt source (source.length - 1)).1,
        (locationAt source (source.length - 1)).2 + 1) := by
  have hlength : 0 < source.length := List.length_pos_iff.mpr h
  have hlines : linesOf source = linesFrom [] 0 source := if_neg (by simpa using h)
  obtain ⟨first, more, hfrom, hfirst, hmore⟩ := exists_lines_from [] 0 (.inr h)
  have hbefore : ∀ line ∈ linesOf source, line.offset < source.length := by
    rw [hlines, hfrom]
    exact List.forall_mem_cons.mpr
      ⟨hfirst ▸ hlength, fun line hline => by simpa using (hmore line hline).2⟩
  -- No line begins at the end, so that it is counted with the character in front of it.
  have hfilter : (linesOf source).filter (·.offset ≤ source.length) =
      (linesOf source).filter (·.offset ≤ source.length - 1) := by
    refine List.filter_congr fun line hline => ?_
    have hoffset := hbefore line hline
    exact decide_eq_decide.mpr ⟨fun _ => by omega, fun _ => by omega⟩
  have hlast := location_in_lines_of (Nat.sub_lt hlength Nat.one_pos)
  rw [← hlast, locationIn, locationIn, hfilter]
  generalize ((linesOf source).filter (·.offset ≤ source.length - 1)).length - 1 = number
  have hoffset : ((linesOf source)[number]?.map (·.offset)).getD 0 < source.length := by
    cases hline : (linesOf source)[number]? with
    | none => exact hlength
    | some line => exact hbefore line (List.mem_of_getElem? hline)
  refine Prod.ext rfl ?_
  dsimp only
  omega

/-- The lines of a source tell where the places in it are, except for its end behind a line
break. -/
theorem location_in_lines_of_iff (before rest : List Char) :
    locationIn (linesOf (before ++ rest)) before.length =
        locationAt (before ++ rest) before.length ↔
      ¬ (rest = [] ∧ ∃ c ∈ before.getLast?, endsLine c) := by
  cases rest with
  | cons c rest =>
      refine iff_of_true (location_in_lines_of ?_) fun hend => List.cons_ne_nil c rest hend.1
      rw [List.length_append, List.length_cons]
      omega
  | nil =>
      rw [List.append_nil]
      rcases List.eq_nil_or_concat before with rfl | ⟨before, c, rfl⟩
      · exact iff_of_true rfl (by simp)
      · have hbehind := location_from_length 1 1 before c []
        have hbreaks : breaksLine c [] = endsLine c := by simp [breaksLine]
        have hend := location_in_lines_of_length (List.concat_ne_nil c before)
        rw [List.concat_eq_append, List.length_append, List.length_singleton,
          Nat.add_sub_cancel] at *
        rw [hend]
        unfold locationAt
        rw [hbehind, locationBehind, hbreaks, List.getLast?_concat]
        split
        · next hc =>
            refine iff_of_false (fun heq => ?_) fun hnot => hnot ⟨rfl, c, rfl, hc⟩
            have hnumber := congrArg Prod.fst heq
            dsimp only at hnumber
            omega
        · next hc =>
            refine iff_of_true rfl ?_
            rintro ⟨-, d, hd, hends⟩
            cases hd
            exact hc hends

/-- Behind a line break at its end the source has another line, but no such line is listed. -/
example : locationAt ['a', '\n'] 2 = (2, 1) ∧ locationIn (linesOf ['a', '\n']) 2 = (1, 3) := by
  decide

/-- The lines of a source put a place behind every place in front of it. -/
theorem precedes_location_in {source : List Char} {index place : Nat} (h : index < place)
    (hplace : place ≤ source.length) :
    Precedes (locationAt source index) (locationIn (linesOf source) place) := by
  rcases Nat.lt_or_eq_of_le hplace with hlt | rfl
  · rw [location_in_lines_of hlt]
    exact precedes_of_lt h hplace
  · have hne : source ≠ [] := List.ne_nil_of_length_pos (Nat.zero_lt_of_lt h)
    have hnext : ∀ location : Nat × Nat, Precedes location (location.1, location.2 + 1) :=
      fun location => .inr ⟨rfl, Nat.lt_succ_self _⟩
    rw [location_in_lines_of_length hne]
    rcases Nat.lt_or_eq_of_le (Nat.le_sub_one_of_lt h) with hlast | rfl
    · exact (precedes_of_lt hlast (Nat.sub_le _ _)).trans (hnext _)
    · exact hnext _

end TextTemplate.Report
