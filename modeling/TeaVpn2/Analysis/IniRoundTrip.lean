import TeaVpn2.Analysis.IniFormat

/-!
# The INI parser reads what was written

A grammar of well-written lines: blank lines, comments, sections, names with a value, and lines that
continue a value, with white space where the format allows it and a comment behind a value.
`written_read_back` says that a file made of such lines is read without an error, and as exactly the
entries in it, with a byte order mark or without.

`Passes` is the condition under which `find_chars_or_comment` goes over a text.
-/

set_option autoImplicit false

namespace TeaVpn2.Analysis

open TeaVpn2.Lib TeaVpn2.Inih

/-! ## Looking for a character -/

/-- The text holds none of the characters and no comment. -/
def Passes (chars : List UInt8) : Bool → List UInt8 → Bool
  | _, [] => true
  | wasSpace, c :: s =>
      !(chars.contains c || (wasSpace && isInlineComment c)) && Passes chars (isspace c) s

/-- `was_space` behind the text. -/
def endsInSpace : Bool → List UInt8 → Bool
  | wasSpace, [] => wasSpace
  | _, c :: s => endsInSpace (isspace c) s

/-- White space and nothing else. -/
def Spaces (s : List UInt8) : Prop := ∀ c ∈ s, isspace c = true

instance (s : List UInt8) : Decidable (Spaces s) :=
  inferInstanceAs (Decidable (∀ c ∈ s, isspace c = true))

theorem passes_append (chars : List UInt8) (wasSpace : Bool) (s t : List UInt8) :
    Passes chars wasSpace (s ++ t) =
      (Passes chars wasSpace s && Passes chars (endsInSpace wasSpace s) t) := by
  induction s generalizing wasSpace with
  | nil => rfl
  | cons c s ih => simp only [List.cons_append, Passes, endsInSpace, ih, Bool.and_assoc]

theorem endsInSpace_append (wasSpace : Bool) (s t : List UInt8) :
    endsInSpace wasSpace (s ++ t) = endsInSpace (endsInSpace wasSpace s) t := by
  induction s generalizing wasSpace with
  | nil => rfl
  | cons c s ih => exact ih (isspace c)

theorem not_comment_of_space {c : UInt8} (h : isspace c = true) :
    isInlineComment c = false ∧ isStartComment c = false ∧ c ≠ 61 ∧ c ≠ 58 := by
  refine ⟨?_, ?_, ?_, ?_⟩
  · apply Bool.eq_false_iff.mpr
    intro hc
    rw [eq_of_beq hc] at h
    revert h
    decide
  · apply Bool.eq_false_iff.mpr
    intro hc
    rcases Bool.or_eq_true_iff.mp hc with hc | hc
    all_goals
      rw [eq_of_beq hc] at h
      revert h
      decide
  all_goals
    rintro rfl
    revert h
    decide

theorem Spaces.append {s t : List UInt8} (hs : Spaces s) (ht : Spaces t) : Spaces (s ++ t) := by
  intro c hc
  rcases List.mem_append.mp hc with hc | hc
  · exact hs c hc
  · exact ht c hc

/-- INTERNAL: white space is gone over. -/
theorem Spaces.passes {s : List UInt8} (h : Spaces s) {chars : List UInt8}
    (hchars : ∀ c ∈ chars, isspace c = false) (wasSpace : Bool) : Passes chars wasSpace s = true := by
  induction s generalizing wasSpace with
  | nil => rfl
  | cons c s ih =>
    have hc : isspace c = true := h c (by simp)
    have hnot : c ∉ chars := fun hin => by
      have := hchars c hin
      rw [hc] at this
      cases this
    have hrest := ih (fun d hd => h d (by simp [hd])) (isspace c)
    simp [Passes, hnot, (not_comment_of_space hc).1, hrest]

theorem Spaces.endsInSpace {s : List UInt8} (h : Spaces s) (hne : s ≠ []) (wasSpace : Bool) :
    endsInSpace wasSpace s = true := by
  induction s generalizing wasSpace with
  | nil => exact absurd rfl hne
  | cons c s ih =>
    have hc : isspace c = true := h c (by simp)
    by_cases hs : s = []
    · subst hs
      exact hc
    · exact ih (fun d hd => h d (by simp [hd])) hs (isspace c)

/-- INTERNAL: a text that passes is gone over. -/
theorem findCharsOrComment_passes {chars : List UInt8} {wasSpace : Bool} {s : List UInt8}
    (h : Passes chars wasSpace s = true) (t : List UInt8) :
    findCharsOrComment chars wasSpace (s ++ t) =
      (s ++ (findCharsOrComment chars (endsInSpace wasSpace s) t).1,
        (findCharsOrComment chars (endsInSpace wasSpace s) t).2) := by
  induction s generalizing wasSpace with
  | nil => rfl
  | cons c s ih =>
    simp only [Passes, Bool.and_eq_true, Bool.not_eq_true'] at h
    have hrest := ih h.2
    simp only [List.cons_append, endsInSpace]
    rw [findCharsOrComment, if_neg (Bool.eq_false_iff.mp h.1), hrest]

/-- INTERNAL: the search stops at one of the characters. -/
theorem findCharsOrComment_stop {chars : List UInt8} {s : List UInt8}
    (h : Passes chars false s = true) {c : UInt8} (hc : c ∈ chars) (t : List UInt8) :
    findCharsOrComment chars false (s ++ c :: t) = (s, c :: t) := by
  rw [findCharsOrComment_passes h]
  unfold findCharsOrComment
  simp [hc]

/-- INTERNAL: the search stops at a comment. -/
theorem findCharsOrComment_comment {chars : List UInt8} {s : List UInt8}
    (h : Passes chars false s = true) (hend : endsInSpace false s = true) (t : List UInt8) :
    findCharsOrComment chars false (s ++ 59 :: t) = (s, 59 :: t) := by
  rw [findCharsOrComment_passes h, hend]
  unfold findCharsOrComment
  simp [isInlineComment]

theorem findCharsOrComment_all {chars : List UInt8} {s : List UInt8}
    (h : Passes chars false s = true) : findCharsOrComment chars false s = (s, []) := by
  have hall := findCharsOrComment_passes h []
  rw [List.append_nil] at hall
  rw [hall]
  simp [findCharsOrComment]

/-! ## The grammar -/

/-- A line without its newline: blank; a comment; `[name]` with anything behind it; a name, a
separator and a value with white space between them, and white space or a comment at the end; an
indented value that belongs to the name above it. -/
inductive Line where
  | blank (ws : List UInt8)
  | comment (ws : List UInt8) (c : UInt8) (text : List UInt8)
  | sect (name rest : List UInt8)
  | pair (name pre : List UInt8) (sep : UInt8) (post value trail : List UInt8)
      (remark : Option (List UInt8))
  | cont (ws : List UInt8) (c : UInt8) (text trail : List UInt8)
deriving DecidableEq, Repr

namespace Line

/-- The comment behind a value. -/
def remarkText : Option (List UInt8) → List UInt8
  | none => []
  | some text => 59 :: text

def text : Line → List UInt8
  | .blank ws => ws
  | .comment ws c text => ws ++ c :: text
  | .sect name rest => 91 :: (name ++ 93 :: rest)
  | .pair name pre sep post value trail remark =>
      name ++ pre ++ sep :: (post ++ value ++ (trail ++ remarkText remark))
  | .cont ws c text trail => ws ++ c :: text ++ trail

/-- The first character of a name. -/
def startsName : List UInt8 → Bool
  | [] => false
  | c :: _ => !isspace c && !isStartComment c && c != 91

/-- What the parts of a line have to look like. -/
def Parts : Line → Prop
  | .blank ws => Spaces ws
  | .comment ws c _ => Spaces ws ∧ isStartComment c = true
  | .sect name _ => name.length ≤ 49 ∧ Passes (ascii "]") false name = true
  | .pair name pre sep post value trail remark =>
      (startsName name = true ∧ strip isspace name = name ∧
        Passes (ascii "=:") false name = true) ∧ Spaces pre ∧ (sep = 61 ∨ sep = 58) ∧
      Spaces post ∧ strip isspace value = value ∧ Passes [] false (post ++ value) = true ∧
      Spaces trail ∧ (remark ≠ none → trail ≠ [])
  | .cont ws c text trail =>
      ws ≠ [] ∧ Spaces ws ∧ isspace c = false ∧ isStartComment c = false ∧
      rstrip (c :: text) = c :: text ∧ Spaces trail

instance (l : Line) : Decidable l.Parts :=
  match l with
  | .blank _ => inferInstanceAs (Decidable (Spaces _))
  | .comment .. => inferInstanceAs (Decidable (_ ∧ _))
  | .sect .. => inferInstanceAs (Decidable (_ ∧ _))
  | .pair .. => inferInstanceAs (Decidable ((_ ∧ _) ∧ _))
  | .cont .. => inferInstanceAs (Decidable (_ ∧ _))

/-- A well-written line that fits into the line buffer. -/
structure Ok (l : Line) : Prop where
  parts : l.Parts
  oneLine : OneLine l.text
  length_le : l.text.length ≤ 198
  noBom : ¬bom <+: l.text

theorem ok_iff (l : Line) :
    (l.Parts ∧ ((0 : UInt8) ∉ l.text ∧ (10 : UInt8) ∉ l.text) ∧ l.text.length ≤ 198 ∧
      ¬bom <+: l.text) ↔ l.Ok :=
  ⟨fun ⟨hparts, ⟨h0, h10⟩, hlen, hbom⟩ => ⟨hparts, ⟨h0, h10⟩, hlen, hbom⟩,
    fun h => ⟨h.parts, ⟨h.oneLine.noNul, h.oneLine.noNewline⟩, h.length_le, h.noBom⟩⟩

instance (l : Line) : Decidable l.Ok := decidable_of_iff _ (ok_iff l)

end Line

/-- The file that has these lines. -/
def fileOf (lines : List Line) : List UInt8 := (lines.map fun l => l.text ++ [10]).flatten

/-- The entries in the lines, in the section `sect` and behind the name `prev`. A continuation is
an entry of its own, for the 49 bytes that `prev_name` keeps of the name. -/
def lineEntries : List UInt8 → List UInt8 → List Line → List Entry
  | _, _, [] => []
  | _, _, .sect name _ :: ls => lineEntries name [] ls
  | sect, _, .pair name _ _ _ value _ _ :: ls =>
      (sect, name, value) :: lineEntries sect (name.take 49) ls
  | sect, prev, .cont _ c text _ :: ls => (sect, prev, c :: text) :: lineEntries sect prev ls
  | sect, prev, _ :: ls => lineEntries sect prev ls

/-- Every continuation stands behind a name of its section. -/
def Attached : Bool → List Line → Bool
  | _, [] => true
  | _, .sect _ _ :: ls => Attached false ls
  | _, .pair .. :: ls => Attached true ls
  | named, .cont .. :: ls => named && Attached named ls
  | named, _ :: ls => Attached named ls

/-! ## One line -/

section Step

variable {C : Type} (handler : C → Entry → Option C) (st : State C)

theorem skipBom_line {l : Line} (h : l.Ok) (lineno : Nat) :
    skipBom lineno (l.text ++ [10]) = l.text ++ [10] := by
  unfold skipBom
  rw [if_neg]
  rintro ⟨-, hbom⟩
  rcases List.prefix_concat_iff.mp (List.isPrefixOf_iff_prefix.mp hbom) with heq | hpre
  · have hlast := congrArg List.getLast? heq
    simp [bom] at hlast
  · exact h.noBom hpre

theorem space_newline : Spaces [10] := by
  intro c hc
  rw [List.mem_singleton.mp hc]
  decide

/-- INTERNAL: what is left of a line whose first character is no white space. -/
theorem lskip_rstrip_cons {c : UInt8} (hc : isspace c = false) (s : List UInt8) :
    lskip (rstrip (c :: s)) = c :: rstrip s ∧ rstrip (c :: s) = c :: rstrip s := by
  have hr : rstrip (c :: s) = c :: rstrip s := rdropWhile_append_cons isspace hc [] s
  refine ⟨?_, hr⟩
  rw [hr, lskip]
  simp [hc]

/-- INTERNAL: such a line is no continuation. -/
theorem not_moved {l : Line} (h : l.Ok) {c : UInt8} {s : List UInt8} (hl : l.text ++ [10] = c :: s)
    (hc : isspace c = false) (lineno : Nat) : moved lineno (l.text ++ [10]) = false := by
  obtain ⟨h₁, h₂⟩ := lskip_rstrip_cons hc s
  unfold moved
  dsimp only
  rw [skipBom_line h, hl, h₁, h₂]
  simp

/-- INTERNAL: a blank line changes nothing. -/
theorem parseLine_blank {ws : List UInt8} (h : (Line.blank ws).Ok) :
    parseLine handler st ((Line.blank ws).text ++ [10]) = { st with lineno := st.lineno + 1 } := by
  have hnil : lskip (rstrip (ws ++ [10])) = [] := by
    have hall : Spaces (ws ++ [10]) := Spaces.append h.parts space_newline
    rw [rstrip, (List.rdropWhile_eq_nil_iff).mpr hall]
    rfl
  unfold parseLine
  dsimp only
  rw [skipBom_line h]
  simp only [Line.text, hnil]

/-- INTERNAL: neither does a comment, however far it is indented. -/
theorem parseLine_comment {ws text : List UInt8} {c : UInt8} (h : (Line.comment ws c text).Ok) :
    parseLine handler st ((Line.comment ws c text).text ++ [10]) =
      { st with lineno := st.lineno + 1 } := by
  obtain ⟨hws, hc⟩ := h.parts
  have hspace : isspace c = false := by
    apply Bool.eq_false_iff.mpr
    intro hs
    rw [(not_comment_of_space hs).2.1] at hc
    cases hc
  have hstart : lskip (rstrip (ws ++ c :: text ++ [10])) = c :: rstrip (text ++ [10]) := by
    have hr : rstrip (ws ++ c :: (text ++ [10])) = ws ++ c :: rstrip (text ++ [10]) :=
      rdropWhile_append_cons isspace hspace ws _
    rw [List.append_assoc, List.cons_append, hr, lskip, List.dropWhile_append_of_pos hws]
    simp [hspace]
  unfold parseLine
  dsimp only
  rw [skipBom_line h]
  simp only [Line.text, hstart, hc, if_true]

/-- INTERNAL: a section begins, and continuations end. -/
theorem parseLine_sect {name rest : List UInt8} (h : (Line.sect name rest).Ok) :
    parseLine handler st ((Line.sect name rest).text ++ [10]) =
      { st with lineno := st.lineno + 1, sect := name, prevName := [] } := by
  obtain ⟨hlen, hpass⟩ := h.parts
  have hspace : isspace 91 = false := by decide
  have htext : (Line.sect name rest).text ++ [10] = 91 :: (name ++ 93 :: (rest ++ [10])) := by
    simp [Line.text]
  have hstart : lskip (rstrip (91 :: (name ++ 93 :: (rest ++ [10])))) =
      91 :: (name ++ 93 :: rstrip (rest ++ [10])) := by
    rw [(lskip_rstrip_cons hspace _).1]
    have hr : rstrip (name ++ 93 :: (rest ++ [10])) = name ++ 93 :: rstrip (rest ++ [10]) :=
      rdropWhile_append_cons isspace (by decide) name _
    rw [hr]
  have hmoved := not_moved h htext hspace (st.lineno + 1)
  unfold parseLine
  dsimp only
  rw [skipBom_line h, hmoved, htext, hstart]
  simp only [show isStartComment 91 = false from by decide, Bool.false_eq_true, if_false, and_false,
    if_true]
  unfold sectionLine
  rw [findCharsOrComment_stop hpass (by decide)]
  simp only [strncpy0, MAX_SECTION]
  rw [List.take_of_length_le hlen]

/-- INTERNAL: the value of a pair, when the line has been cut behind the separator. -/
theorem value_of_pair {post value trail : List UInt8} {remark : Option (List UInt8)}
    (hpost : Spaces post) (hvalue : strip isspace value = value)
    (hpass : Passes [] false (post ++ value) = true) (htrail : Spaces trail)
    (hremark : remark ≠ none → trail ≠ []) :
    rstrip (lskip (findCharsOrComment [] false
      (rstrip (post ++ value ++ (trail ++ Line.remarkText remark) ++ [10]))).1) = value := by
  have hpadded : Passes [] false (post ++ value ++ trail) = true := by
    rw [passes_append, hpass, htrail.passes (by simp)]
    rfl
  cases remark with
  | none =>
    -- the white space at the end is gone, and the search runs to the end
    have hall : Spaces (trail ++ [10]) := htrail.append space_newline
    have hcut : post ++ value ++ (trail ++ Line.remarkText none) ++ [10] =
        post ++ value ++ (trail ++ [10]) := by simp [Line.remarkText]
    rw [hcut]
    obtain ⟨r, hr⟩ : rstrip (post ++ value ++ (trail ++ [10])) <+: post ++ value := by
      rw [rstrip, rdropWhile_append_of_pos isspace hall]
      exact List.rdropWhile_prefix isspace _
    have hpass' : Passes [] false (rstrip (post ++ value ++ (trail ++ [10]))) = true := by
      rw [← hr, passes_append, Bool.and_eq_true] at hpass
      exact hpass.1
    rw [findCharsOrComment_all hpass']
    show strip isspace (rstrip (post ++ value ++ (trail ++ [10]))) = value
    rw [rstrip, strip_rdropWhile, strip_padded isspace hpost hvalue hall]
  | some text =>
    -- the search stops at the comment
    have hcut : rstrip (post ++ value ++ (trail ++ Line.remarkText (some text)) ++ [10]) =
        post ++ value ++ trail ++ 59 :: rstrip (text ++ [10]) := by
      have hr : rstrip (post ++ value ++ trail ++ 59 :: (text ++ [10])) =
          post ++ value ++ trail ++ 59 :: rstrip (text ++ [10]) :=
        rdropWhile_append_cons isspace (by decide) _ _
      rw [← hr]
      simp [Line.remarkText]
    have hend : endsInSpace false (post ++ value ++ trail) = true := by
      rw [endsInSpace_append]
      exact htrail.endsInSpace (hremark (by simp)) _
    rw [hcut, findCharsOrComment_comment hpadded hend]
    show strip isspace (post ++ value ++ trail) = value
    exact strip_padded isspace hpost hvalue htrail

theorem startsName_cons {s : List UInt8} (h : Line.startsName s = true) :
    ∃ c t, s = c :: t ∧ isspace c = false ∧ isStartComment c = false ∧ c ≠ 91 := by
  cases s with
  | nil => cases h
  | cons c t =>
    simp only [Line.startsName, Bool.and_eq_true, Bool.not_eq_true', bne_iff_ne] at h
    exact ⟨c, t, rfl, h.1.1, h.1.2, h.2⟩

/-- INTERNAL: a name with a value is given to the callback as it is written. -/
theorem parseLine_pair {name pre post value trail : List UInt8} {sep : UInt8}
    {remark : Option (List UInt8)} (h : (Line.pair name pre sep post value trail remark).Ok) :
    parseLine handler st ((Line.pair name pre sep post value trail remark).text ++ [10]) =
      State.call handler { st with lineno := st.lineno + 1, prevName := name.take 49 } name value := by
  obtain ⟨⟨hhead, hstrip, hname⟩, hpre, hsep, hpost, hvalue, hpass, htrail, hremark⟩ := h.parts
  obtain ⟨c, t, rfl, hspace, hcomment, hbracket⟩ := startsName_cons hhead
  have hsepSpace : isspace sep = false := by
    rcases hsep with rfl | rfl <;> decide
  have htext : (Line.pair (c :: t) pre sep post value trail remark).text ++ [10] =
      c :: (t ++ pre ++ sep :: (post ++ value ++ (trail ++ Line.remarkText remark) ++ [10])) := by
    simp [Line.text]
  have hstart : lskip (rstrip ((Line.pair (c :: t) pre sep post value trail remark).text ++ [10])) =
      c :: (t ++ pre ++
        sep :: rstrip (post ++ value ++ (trail ++ Line.remarkText remark) ++ [10])) := by
    rw [htext, (lskip_rstrip_cons hspace _).1]
    have hr : rstrip (t ++ pre ++ sep :: (post ++ value ++ (trail ++ Line.remarkText remark) ++ [10]))
        = t ++ pre ++ sep :: rstrip (post ++ value ++ (trail ++ Line.remarkText remark) ++ [10]) :=
      rdropWhile_append_cons isspace hsepSpace _ _
    rw [hr]
  have hmoved := not_moved h htext hspace (st.lineno + 1)
  have hbefore : Passes (ascii "=:") false (c :: t ++ pre) = true := by
    rw [passes_append, hname, hpre.passes (by decide +kernel)]
    rfl
  have hmem : sep ∈ ascii "=:" := by
    rcases hsep with rfl | rfl <;> decide
  have hfind := findCharsOrComment_stop hbefore hmem
    (rstrip (post ++ value ++ (trail ++ Line.remarkText remark) ++ [10]))
  have hrname : rstrip (c :: t ++ pre) = c :: t := by
    have hdrop : lskip (c :: t) = c :: t := by simp [lskip, hspace]
    rw [rstrip, rdropWhile_append_of_pos isspace hpre]
    rw [strip, show (c :: t).dropWhile isspace = c :: t from hdrop] at hstrip
    exact hstrip
  unfold parseLine
  dsimp only
  rw [skipBom_line h, hmoved, hstart]
  simp only [hcomment, Bool.false_eq_true, if_false, and_false, hbracket]
  unfold pairLine
  rw [← List.cons_append, ← List.cons_append, hfind]
  simp only [hsep, if_true, hrname, value_of_pair hpost hvalue hpass htrail hremark]
  rfl

/-- INTERNAL: an indented line is given to the callback with the name above it. -/
theorem parseLine_cont {ws text trail : List UInt8} {c : UInt8}
    (h : (Line.cont ws c text trail).Ok) (hprev : st.prevName ≠ []) :
    parseLine handler st ((Line.cont ws c text trail).text ++ [10]) =
      State.call handler { st with lineno := st.lineno + 1 } st.prevName (c :: text) := by
  obtain ⟨hne, hws, hspace, hcomment, hstrip, htrail⟩ := h.parts
  have hall : Spaces (trail ++ [10]) := htrail.append space_newline
  have htext : (Line.cont ws c text trail).text ++ [10] = ws ++ c :: (text ++ (trail ++ [10])) := by
    simp [Line.text]
  have hcut : rstrip (ws ++ c :: (text ++ (trail ++ [10]))) = ws ++ c :: text := by
    rw [← List.cons_append, ← List.append_assoc, rstrip, rdropWhile_append_of_pos isspace hall]
    have hr : (ws ++ c :: text).rdropWhile isspace = ws ++ c :: text.rdropWhile isspace :=
      rdropWhile_append_cons isspace hspace ws text
    have htail : c :: text.rdropWhile isspace = c :: text := by
      rw [← hstrip]
      exact (lskip_rstrip_cons hspace text).2.symm.trans (by rw [hstrip])
    rw [hr, htail]
  have hstart : lskip (ws ++ c :: text) = c :: text := by
    rw [lskip, List.dropWhile_append_of_pos hws]
    simp [hspace]
  have hmoved : moved (st.lineno + 1) ((Line.cont ws c text trail).text ++ [10]) = true := by
    have hpos : 0 < ws.length := List.length_pos_iff.mpr hne
    unfold moved
    dsimp only
    rw [skipBom_line h, htext, hcut, hstart]
    simp only [List.length_append, Bool.or_eq_true, decide_eq_true_eq]
    exact .inr (by omega)
  unfold parseLine
  dsimp only
  rw [skipBom_line h, hmoved, htext, hcut, hstart]
  simp only [hcomment, Bool.false_eq_true, if_false, and_true, hprev, ne_eq, not_false_eq_true,
    if_true]

end Step

/-! ## A file -/

/-- INTERNAL: the lines are read one by one. -/
theorem fileLines_flatten (texts : List (List UInt8))
    (h : ∀ t ∈ texts, OneLine t ∧ t.length ≤ 198) :
    fileLines (texts.map fun t => t ++ [10]).flatten = texts.map fun t => t ++ [10] := by
  unfold fileLines
  rw [show INI_MAX_LINE - 1 = 198 + 1 from rfl, pieces_flatten]
  · rw [List.map_map]
    apply List.map_congr_left
    intro t ht
    apply cstr_eq_self
    simp [(h t ht).1.noNul]
  · intro line hline
    obtain ⟨t, ht, rfl⟩ := List.mem_map.mp hline
    refine ⟨⟨t, 10, rfl, ?_, rfl⟩, ?_⟩
    · intro c hc
      apply Bool.eq_false_iff.mpr
      intro h10
      rw [eq_of_beq h10] at hc
      exact (h t ht).1.noNewline hc
    · have := (h t ht).2
      rw [List.length_append, List.length_singleton]
      omega

theorem fileLines_fileOf {lines : List Line} (h : ∀ l ∈ lines, l.Ok) :
    fileLines (fileOf lines) = lines.map fun l => l.text ++ [10] := by
  have hlines := fileLines_flatten (lines.map Line.text) fun t ht => by
    obtain ⟨l, hl, rfl⟩ := List.mem_map.mp ht
    exact ⟨(h l hl).oneLine, (h l hl).length_le⟩
  rw [List.map_map] at hlines
  exact hlines

/-- INTERNAL: the byte order mark in front of the first line is gone over. Nothing is continued
there, so it does not matter that `start` has moved. -/
theorem parseLine_bom {C : Type} (handler : C → Entry → Option C) (user : C) {line : List UInt8}
    (h : ¬bom <+: line) :
    parseLine handler { user := user } (bom ++ line) = parseLine handler { user := user } line := by
  have hmark : skipBom 1 (bom ++ line) = line := by
    rw [skipBom, if_pos ⟨rfl, by simp⟩]
    rfl
  have hnone : skipBom 1 line = line := by
    rw [skipBom, if_neg]
    rintro ⟨-, hpre⟩
    exact h (List.isPrefixOf_iff_prefix.mp hpre)
  unfold parseLine
  simp only [Nat.zero_add, hmark, hnone, ne_eq, not_true_eq_false, false_and, if_false]

/-- INTERNAL: so the file is read as without it. -/
theorem iniFile_bom {lines : List Line} (h : ∀ l ∈ lines, l.Ok)
    (hfirst : ∀ l ∈ lines.head?, l.text.length ≤ 195) :
    iniFile (bom ++ fileOf lines) = iniFile (fileOf lines) := by
  cases lines with
  | nil => decide
  | cons l lines =>
    have hl := h l (by simp)
    have hrest : ∀ l ∈ lines, l.Ok := fun l hl => h l (by simp [hl])
    have hfile : bom ++ fileOf (l :: lines) =
        (((bom ++ l.text) :: lines.map Line.text).map fun t => t ++ [10]).flatten := by
      simp [fileOf, Function.comp_def]
    have hread := fileLines_flatten ((bom ++ l.text) :: lines.map Line.text) fun t ht => by
      rcases List.mem_cons.mp ht with rfl | ht
      · have hlen := hfirst l rfl
        refine ⟨⟨?_, ?_⟩, by simp [bom]; omega⟩
        · simp [bom, hl.oneLine.noNul]
        · simp [bom, hl.oneLine.noNewline]
      · obtain ⟨l', hl', rfl⟩ := List.mem_map.mp ht
        exact ⟨(hrest l' hl').oneLine, (hrest l' hl').length_le⟩
    have hmark : ¬bom <+: l.text ++ [10] := by
      intro hbom
      have hskip := skipBom_line hl 1
      rw [skipBom, if_pos ⟨rfl, List.isPrefixOf_iff_prefix.mpr hbom⟩] at hskip
      have hlen := congrArg List.length hskip
      simp only [List.length_drop, List.length_append, List.length_singleton] at hlen
      omega
    have hrun : (fileLines (bom ++ fileOf (l :: lines))).foldl (parseLine record) { user := [] } =
        (fileLines (fileOf (l :: lines))).foldl (parseLine record) { user := [] } := by
      rw [hfile, hread, fileLines_fileOf h, List.map_cons, List.map_cons, List.foldl_cons,
        List.foldl_cons, List.append_assoc, parseLine_bom record [] hmark, List.map_map]
      rfl
    unfold iniFile iniParseFile
    rw [hrun]

/-- INTERNAL: the run of the recorder over well-written lines. -/
theorem foldl_record {lines : List Line} (h : ∀ l ∈ lines, l.Ok) (st : State (List Entry))
    (herr : st.error = 0) (hatt : Attached (decide (st.prevName ≠ [])) lines = true) :
    ((lines.map fun l => l.text ++ [10]).foldl (parseLine record) st).error = 0 ∧
      ((lines.map fun l => l.text ++ [10]).foldl (parseLine record) st).user =
        st.user ++ lineEntries st.sect st.prevName lines := by
  induction lines generalizing st with
  | nil => simp [herr, lineEntries]
  | cons l lines ih =>
    have hl := h l (by simp)
    have hrest : ∀ l ∈ lines, l.Ok := fun l hl => h l (by simp [hl])
    rw [List.map_cons, List.foldl_cons]
    cases l with
    | blank ws =>
      rw [parseLine_blank record st hl]
      exact ih hrest _ herr hatt
    | comment ws c text =>
      rw [parseLine_comment record st hl]
      exact ih hrest _ herr hatt
    | sect name rest =>
      rw [parseLine_sect record st hl]
      exact ih hrest _ herr hatt
    | pair name pre sep post value trail remark =>
      obtain ⟨c, t, hname, -⟩ := startsName_cons hl.parts.1.1
      have hne : decide (name.take 49 ≠ []) = true := by simp [hname]
      rw [parseLine_pair record st hl]
      obtain ⟨hzero, huser⟩ := ih hrest
        (State.call record { st with lineno := st.lineno + 1, prevName := name.take 49 } name value)
        herr (hne.symm ▸ hatt)
      refine ⟨hzero, huser.trans ?_⟩
      show st.user ++ [(st.sect, name, value)] ++ lineEntries st.sect (name.take 49) lines = _
      simp [lineEntries]
    | cont ws c text trail =>
      obtain ⟨hprev, hatt⟩ := (Bool.and_eq_true _ _).mp hatt
      rw [parseLine_cont record st hl (of_decide_eq_true hprev)]
      obtain ⟨hzero, huser⟩ := ih hrest
        (State.call record { st with lineno := st.lineno + 1 } st.prevName (c :: text)) herr hatt
      refine ⟨hzero, huser.trans ?_⟩
      show st.user ++ [(st.sect, st.prevName, c :: text)] ++ lineEntries st.sect st.prevName lines = _
      simp [lineEntries]

/-- INTERNAL: a well-written file is read back. -/
theorem iniFile_fileOf {lines : List Line} (h : ∀ l ∈ lines, l.Ok)
    (hatt : Attached false lines = true) :
    iniFile (fileOf lines) = { entries := lineEntries [] [] lines, ret := 0 } := by
  obtain ⟨hzero, huser⟩ := foldl_record h { user := [] } rfl hatt
  rw [← fileLines_fileOf h] at hzero huser
  have hret : (iniFile (fileOf lines)).ret = 0 := congrArg Nat.cast hzero
  have hentries : (iniFile (fileOf lines)).entries = lineEntries [] [] lines := huser
  rw [← hret, ← hentries]

/-- INTERNAL: **what is written is read back.** A file of well-written lines, with a byte order mark
in front of it or without, is read without an error and as the entries in its lines; and any
callback is called with these, in order.
SOURCE: ext/inih/inih.c:46-251 -/
theorem written_read_back (lines : List Line) (h : ∀ l ∈ lines, l.Ok)
    (hatt : Attached false lines = true) :
    iniFile (fileOf lines) = { entries := lineEntries [] [] lines, ret := 0 } ∧
    ((∀ l ∈ lines.head?, l.text.length ≤ 195) →
      iniFile (bom ++ fileOf lines) = { entries := lineEntries [] [] lines, ret := 0 }) ∧
    ∀ (C : Type) (handler : C → Entry → Option C) (user : C),
      (iniParseFile handler user (fileOf lines)).2 =
        (iniEntries handler user (lineEntries [] [] lines)).1 ∧
      ((iniParseFile handler user (fileOf lines)).1 = 0 ↔
        (iniEntries handler user (lineEntries [] [] lines)).2 = false) := by
  have hfile := iniFile_fileOf h hatt
  refine ⟨hfile, fun hfirst => (iniFile_bom h hfirst).trans hfile, ?_⟩
  intro C handler user
  have hreplay := iniParseFile_replay handler user (fileOf lines)
  rw [hfile] at hreplay
  exact ⟨hreplay.1, hreplay.2.trans (and_iff_right rfl)⟩

/-- A user file like data/server/users/ammarfaizi2.ini, with a line that continues one. -/
def exampleUser : List Line :=
  [.blank [],
   .sect (ascii "auth") [],
   .pair (ascii "username") (ascii " ") 61 (ascii " ") (ascii "ammarfaizi2") [] none,
   .pair (ascii "password") (ascii " ") 61 (ascii " ") (ascii "mypassword123") (ascii " ")
     (some (ascii " change it")),
   .blank [],
   .sect (ascii "iface") (ascii " ; addresses"),
   .comment (ascii "  ") 59 (ascii " Virtual network interface IP config for client"),
   .pair (ascii "mtu") [] 58 (ascii " ") (ascii "1470") [] none,
   .pair (ascii "ipv4") (ascii " ") 61 [] [] [] none,
   .cont (ascii "   ") 49 (ascii "0.5.5.2") (ascii " ")]

theorem written_read_back_user :
    iniFile (fileOf exampleUser) =
      { entries := [(ascii "auth", ascii "username", ascii "ammarfaizi2"),
          (ascii "auth", ascii "password", ascii "mypassword123"),
          (ascii "iface", ascii "mtu", ascii "1470"), (ascii "iface", ascii "ipv4", []),
          (ascii "iface", ascii "ipv4", ascii "10.5.5.2")], ret := 0 } :=
  (written_read_back exampleUser (by decide +kernel) (by decide)).1

end TeaVpn2.Analysis
