import Tablewright.Proofs.Fallible
import Tablewright.Proofs.Text.Lines
import Tablewright.Schema.ViewFile

/-!
# The query in a view file

The query of a view file begins at its first line that is neither blank nor a comment. Lines end at
line feeds and carriage returns, but not there alone: any character that ends a line does it, and in
the query each of them has become a line feed. So the query is what stands in the file from that
line on exactly if no comment before it goes on with something else behind such a character, and it
has none of them itself (`ViewFile.queryIn_splitOnP_eq_iff`).
-/

namespace Tablewright

open Text (isBlank isLineEnd trimWhile unify splitAtChar)

namespace ViewFile

variable {lines pieces : List (List Char)} {line rest before cs : List Char}

/-! ## Lines that are passed over -/

/-- Whether a line is a comment, with or without blanks before it. -/
def opensComment (line : List Char) : Bool :=
  ['-', '-'].isPrefixOf (line.dropWhile isBlank)

/-- Whether a line before the query is passed over. -/
def isSkipped (line : List Char) : Bool :=
  line.all isBlank || opensComment line

/-- The query in some lines. -/
def queryIn (lines : List (List Char)) : List Char :=
  trimWhile isBlank (['\n'].intercalate (lines.dropWhile isSkipped))

/-- The query begins behind all lines that are passed over. -/
theorem queryIn_append {skipped : List (List Char)} (h : ∀ line ∈ skipped, isSkipped line = true)
    (lines : List (List Char)) : queryIn (skipped ++ lines) = queryIn lines := by
  rw [queryIn, List.dropWhile_append_of_pos h, queryIn]

/-- Blanks at the beginning make no comment. -/
theorem opensComment_append_left (cs : List Char) (h : before.all isBlank = true) :
    opensComment (before ++ cs) = opensComment cs := by
  rw [opensComment, List.dropWhile_append_of_pos (List.all_eq_true.1 h), opensComment]

/-- A line with something in it is a comment or not, whatever follows but a dash. -/
theorem opensComment_append_right (h : ¬ line.all isBlank = true) (hrest : rest.head? ≠ some '-') :
    opensComment (line ++ rest) = opensComment line := by
  have hne : line.dropWhile isBlank ≠ [] := fun hnil =>
    h (List.all_eq_true.2 (List.dropWhile_eq_nil_iff.1 hnil))
  rw [opensComment, opensComment, List.dropWhile_append,
    if_neg (by simpa [List.isEmpty_iff] using hne)]
  obtain ⟨a, cs, hcs⟩ := List.exists_cons_of_ne_nil hne
  rw [hcs]
  -- one character alone could become a comment with a dash behind it
  cases cs with
  | nil =>
    cases rest with
    | nil => rfl
    | cons c rest =>
      have hc : ('-' == c) = false := beq_eq_false_iff_ne.2 fun he => hrest (congrArg some he.symm)
      simp [List.isPrefixOf, hc]
  | cons b cs => simp [List.isPrefixOf]

theorem unifyChar_eq_dash_iff (c : Char) : Text.unifyChar c = '-' ↔ c = '-' := by
  by_cases hend : isLineEnd c = true
  · rw [Text.unifyChar_of_isLineEnd hend]
    refine iff_of_false (by decide) ?_
    rintro rfl
    exact absurd hend (by decide)
  · rw [Text.unifyChar_of_not hend]

/-- Line ends make no comment. -/
theorem opensComment_unify (cs : List Char) : opensComment (unify cs) = opensComment cs := by
  have hblank : isBlank ∘ Text.unifyChar = isBlank := funext Text.isBlank_unifyChar
  have hdash : ∀ c, ('-' == Text.unifyChar c) = ('-' == c) := by
    intro c
    rw [Bool.eq_iff_iff, beq_iff_eq, beq_iff_eq, eq_comm, unifyChar_eq_dash_iff, eq_comm]
  rw [opensComment, opensComment, unify, List.dropWhile_map, hblank]
  rcases cs.dropWhile isBlank with _ | ⟨a, _ | ⟨b, cs⟩⟩
  · rfl
  · simp [List.isPrefixOf]
  · simp [List.isPrefixOf, hdash]

/-! ## What is passed over at the beginning of a query -/

/-- Behind its first line a text goes on with a line feed, if it goes on, and with no dash. -/
theorem exists_intercalate_cons (line : List Char) (lines : List (List Char)) :
    ∃ rest, ['\n'].intercalate (line :: lines) = line ++ rest ∧ rest.head? ≠ some '-' := by
  cases lines with
  | nil => exact ⟨[], by rw [List.intercalate_singleton, List.append_nil], nofun⟩
  | cons next lines =>
    refine ⟨'\n' :: ['\n'].intercalate (next :: lines), ?_, ?_⟩
    · rw [List.intercalate_cons_cons, List.append_assoc, List.singleton_append]
    · rw [List.head?_cons]
      decide

/-- A text begins with a comment if its first line is one, unless that is blank. -/
theorem opensComment_intercalate (lines : List (List Char)) (h : ¬ line.all isBlank = true) :
    opensComment (['\n'].intercalate (line :: lines)) = opensComment line := by
  obtain ⟨rest, heq, hrest⟩ := exists_intercalate_cons line lines
  rw [heq, opensComment_append_right h hrest]

theorem isSkipped_of_blank (h : line.all isBlank = true) : isSkipped line = true := by
  rw [isSkipped, h, Bool.true_or]

theorem isSkipped_eq (h : ¬ line.all isBlank = true) : isSkipped line = opensComment line := by
  rw [isSkipped, Bool.eq_false_iff.2 h, Bool.false_or]

/-- Nothing but blanks is in a blank line. -/
theorem trimWhile_of_blank (h : line.all isBlank = true) : trimWhile isBlank line = [] := by
  rw [trimWhile, List.dropWhile_eq_nil_iff.2 (List.all_eq_true.1 h)]
  rfl

/-- Blank lines at the beginning of a query are trimmed away anyway. -/
theorem queryIn_of_not_opensComment (h : opensComment (['\n'].intercalate pieces) = false) :
    queryIn pieces = trimWhile isBlank (['\n'].intercalate pieces) := by
  -- once a piece has something in it, that piece is kept: only blank ones can be passed over
  induction pieces with
  | nil => rfl
  | cons piece pieces ih =>
    by_cases hblank : piece.all isBlank = true
    · have hskip : queryIn (piece :: pieces) = queryIn pieces := by
        rw [queryIn, List.dropWhile_cons_of_pos (isSkipped_of_blank hblank), queryIn]
      rw [hskip]
      cases pieces with
      | nil =>
        rw [List.intercalate_singleton, trimWhile_of_blank hblank]
        rfl
      | cons next pieces =>
        have hbefore : (piece ++ ['\n']).all isBlank = true := by
          rw [List.all_append, hblank]
          decide
        rw [List.intercalate_cons_cons] at h ⊢
        rw [opensComment_append_left _ hbefore] at h
        rw [ih h, Text.trimWhile_append_left _ (List.all_eq_true.1 hbefore)]
    · rw [opensComment_intercalate _ hblank, ← isSkipped_eq hblank] at h
      rw [queryIn, List.dropWhile_cons_of_neg (Bool.eq_false_iff.1 h)]

/-! ## Two ways to end lines -/

/-- The characters of a text that are not blank. -/
def visible (cs : List Char) : List Char :=
  cs.filter fun c => !isBlank c

theorem visible_eq_nil_iff : visible cs = [] ↔ cs.all isBlank = true := by
  simp [visible, List.filter_eq_nil_iff]

theorem visible_intercalate (lines : List (List Char)) :
    visible (['\n'].intercalate lines) = lines.flatMap visible := by
  have hfeed : visible ['\n'] = [] := visible_eq_nil_iff.2 (by decide)
  induction lines with
  | nil => rfl
  | cons line lines ih =>
    cases lines with
    | nil => simp
    | cons next lines =>
      rw [List.intercalate_cons_cons, List.flatMap_cons, ← ih]
      unfold visible at hfeed ⊢
      rw [List.filter_append, List.filter_append, hfeed, List.append_nil]

/-- Whatever lines end at, what can be seen of them stays. -/
theorem visible_splitOnP (line : List Char) :
    (line.splitOnP isLineEnd).flatMap visible = visible line := by
  rw [← visible_intercalate, Text.intercalate_splitOnP, visible, Text.filter_unify, visible]

theorem visible_queryIn (lines : List (List Char)) :
    visible (queryIn lines) = (lines.dropWhile isSkipped).flatMap visible := by
  rw [queryIn, visible, Text.filter_trimWhile, ← visible, visible_intercalate]

/-- A line that is passed over goes on, behind a line end, with something that is not. -/
def LeaksFrom (lines : List (List Char)) : Prop :=
  ∃ line ∈ lines.takeWhile isSkipped, ∃ piece ∈ line.splitOnP isLineEnd, isSkipped piece = false

instance (lines : List (List Char)) : Decidable (LeaksFrom lines) :=
  inferInstanceAs (Decidable (∃ line ∈ lines.takeWhile isSkipped,
    ∃ piece ∈ line.splitOnP isLineEnd, isSkipped piece = false))

/-- If nothing leaks, the query in the pieces of all lines is that in the lines, with line feeds for
all line ends. -/
theorem queryIn_flatMap_of_not_leaks (h : ¬ LeaksFrom lines) :
    queryIn (lines.flatMap (·.splitOnP isLineEnd)) = unify (queryIn lines) := by
  have hskipped : ∀ piece ∈ (lines.takeWhile isSkipped).flatMap (·.splitOnP isLineEnd),
      isSkipped piece = true := by
    intro piece hpiece
    obtain ⟨line, hline, hpiece⟩ := List.mem_flatMap.1 hpiece
    by_contra hkept
    exact h ⟨line, hline, piece, hpiece, Bool.eq_false_iff.2 hkept⟩
  have hdrop : queryIn (lines.flatMap (·.splitOnP isLineEnd)) =
      queryIn ((lines.dropWhile isSkipped).flatMap (·.splitOnP isLineEnd)) := by
    nth_rewrite 1 [← List.takeWhile_append_dropWhile (p := isSkipped) (l := lines)]
    rw [List.flatMap_append, queryIn_append hskipped]
  rw [hdrop]
  cases hrest : lines.dropWhile isSkipped with
  | nil =>
    have hnone : queryIn lines = [] := by
      rw [queryIn, hrest]
      rfl
    rw [hnone]
    rfl
  | cons line rest =>
    have hkept : isSkipped line = false := by
      have := List.head?_dropWhile_not isSkipped lines
      rwa [hrest] at this
    have hvisible : ¬ line.all isBlank = true := fun hblank => by
      rw [isSkipped_of_blank hblank] at hkept
      cases hkept
    -- the first line that is kept may have blank pieces in front, but no comment before its text
    have hopens : opensComment (unify (['\n'].intercalate (line :: rest))) = false := by
      rw [opensComment_unify, opensComment_intercalate _ hvisible, ← isSkipped_eq hvisible, hkept]
    rw [← Text.splitOnP_intercalate (List.cons_ne_nil line rest)]
    rw [← Text.intercalate_splitOnP] at hopens
    rw [queryIn_of_not_opensComment hopens, Text.intercalate_splitOnP, Text.trimWhile_unify,
      queryIn, hrest]

/-- If something leaks, the query in the pieces has more in it. -/
theorem length_visible_lt_of_leaks (h : LeaksFrom lines) :
    (visible (queryIn lines)).length <
      (visible (queryIn (lines.flatMap (·.splitOnP isLineEnd)))).length := by
  obtain ⟨line, hline, piece, hpiece, hkept⟩ := h
  rw [visible_queryIn, visible_queryIn]
  have hleak : ((lines.takeWhile isSkipped).flatMap (·.splitOnP isLineEnd)).dropWhile isSkipped ≠
      [] := by
    intro hnil
    have hall := List.dropWhile_eq_nil_iff.1 hnil piece (List.mem_flatMap.2 ⟨line, hline, hpiece⟩)
    rw [hkept] at hall
    cases hall
  have hsame : ((lines.dropWhile isSkipped).flatMap (·.splitOnP isLineEnd)).flatMap visible =
      (lines.dropWhile isSkipped).flatMap visible := by
    rw [List.flatMap_assoc]
    simp only [visible_splitOnP]
  nth_rewrite 2 [← List.takeWhile_append_dropWhile (p := isSkipped) (l := lines)]
  rw [List.flatMap_append, List.dropWhile_append, if_neg (by simpa [List.isEmpty_iff] using hleak),
    List.flatMap_append, hsame, List.length_append]
  -- what leaks can be seen
  refine Nat.lt_add_of_pos_left (List.length_pos_iff.2 fun hnil => ?_)
  have hfirst := List.flatMap_eq_nil_iff.1 hnil _ (List.head_mem hleak)
  have hfirstKept := List.head_dropWhile_not isSkipped hleak
  rw [isSkipped_of_blank (visible_eq_nil_iff.1 hfirst)] at hfirstKept
  cases hfirstKept

/-- **When the query is what stands in the file**: exactly if no comment before it leaks, and it has
no other line ends than line feeds. -/
theorem queryIn_splitOnP_eq_iff : queryIn (cs.splitOnP isLineEnd) = queryIn (splitAtChar '\n' cs) ↔
    ¬ LeaksFrom (splitAtChar '\n' cs) ∧
      ∀ c ∈ queryIn (splitAtChar '\n' cs), isLineEnd c = true → c = '\n' := by
  have hpieces : cs.splitOnP isLineEnd =
      (splitAtChar '\n' cs).flatMap (·.splitOnP isLineEnd) := by
    obtain ⟨hne, -, heq⟩ := Text.splitAtChar_eq_iff.1 (rfl : splitAtChar '\n' cs = _)
    rw [← Text.splitOnP_intercalate hne, ← heq]
  rw [hpieces]
  constructor
  · intro heq
    have hleaks : ¬ LeaksFrom (splitAtChar '\n' cs) := by
      intro hleaks
      have hlt := length_visible_lt_of_leaks hleaks
      rw [heq] at hlt
      exact lt_irrefl _ hlt
    rw [queryIn_flatMap_of_not_leaks hleaks] at heq
    exact ⟨hleaks, Text.unify_eq_self_iff.1 heq⟩
  · rintro ⟨hleaks, hends⟩
    rw [queryIn_flatMap_of_not_leaks hleaks, Text.unify_eq_self_iff.2 hends]

/-! ## Reading lines -/

/-- Blanks at the end make no difference to whether a text begins with dashes. -/
theorem dashes_isPrefixOf_trimEndWhile (cs : List Char) :
    ['-', '-'].isPrefixOf (Text.trimEndWhile isBlank cs) = ['-', '-'].isPrefixOf cs := by
  rw [Bool.eq_iff_iff, List.isPrefixOf_iff_prefix, List.isPrefixOf_iff_prefix]
  constructor
  · exact fun h => h.trans (List.rdropWhile_prefix isBlank cs)
  · rintro ⟨rest, rfl⟩
    rw [Text.trimEndWhile, List.reverse_append, List.dropWhile_append]
    split
    · exact List.prefix_rfl
    · rw [List.reverse_append]
      exact List.prefix_append _ _

theorem isComment_trim (line : String) :
    isComment (Text.trim line) = opensComment line.toList := by
  simp only [isComment, Text.trim, trimWhile, String.toList_ofList]
  exact dashes_isPrefixOf_trimEndWhile _

theorem trim_eq_empty_iff (line : String) :
    Text.trim line = "" ↔ line.toList.all isBlank = true := by
  rw [← String.toList_inj, Text.trim, String.toList_ofList]
  constructor
  · intro hnil
    rw [← visible_eq_nil_iff, visible, ← Text.filter_trimWhile, hnil]
    rfl
  · exact trimWhile_of_blank

/-- What lines that are passed over say. -/
def annotateAll (v : ViewFile) (lines : List String) : ViewFile :=
  lines.foldl (fun v line => v.annotate (Text.trim line)) v

theorem annotateAll_cons (v : ViewFile) (line : String) (lines : List String) :
    v.annotateAll (line :: lines) = (v.annotate (Text.trim line)).annotateAll lines := by
  rw [annotateAll, List.foldl_cons, annotateAll]

/-- A blank line says nothing. -/
theorem annotate_empty (v : ViewFile) : v.annotate "" = v :=
  rfl

theorem body_annotate (v : ViewFile) (comment : String) : (v.annotate comment).body = v.body := by
  dsimp only [annotate]
  split
  · rfl
  · split
    · rfl
    · split <;> rfl

/-- **What is read from lines**: those before the query say something about it, the others are the
query. -/
theorem ofLines_eq {v : ViewFile} (hv : v.body = []) (lines : List String) :
    v.ofLines lines =
      { v.annotateAll (lines.takeWhile (isSkipped ∘ String.toList)) with
        body := lines.dropWhile (isSkipped ∘ String.toList) } := by
  induction lines generalizing v with
  | nil => rw [ofLines, List.takeWhile_nil, List.dropWhile_nil, annotateAll, List.foldl_nil, ← hv]
  | cons line lines ih =>
    rw [ofLines, isComment_trim]
    by_cases hcomment : opensComment line.toList = true
    · have hskip : (isSkipped ∘ String.toList) line = true := by
        rw [Function.comp_apply, isSkipped, hcomment, Bool.or_true]
      rw [if_pos hcomment, ih ((body_annotate v _).trans hv), List.takeWhile_cons_of_pos hskip,
        List.dropWhile_cons_of_pos hskip, annotateAll_cons]
    · rw [if_neg hcomment]
      by_cases hblank : line.toList.all isBlank = true
      · have hempty : Text.trim line = "" := (trim_eq_empty_iff line).2 hblank
        have hskip : (isSkipped ∘ String.toList) line = true := isSkipped_of_blank hblank
        rw [if_pos (beq_iff_eq.2 hempty), ih hv, List.takeWhile_cons_of_pos hskip,
          List.dropWhile_cons_of_pos hskip, annotateAll_cons, hempty, annotate_empty]
      · have hkept : ¬ (isSkipped ∘ String.toList) line = true := by
          rwa [Function.comp_apply, isSkipped_eq hblank]
        rw [if_neg fun hempty => hblank ((trim_eq_empty_iff line).1 (beq_iff_eq.1 hempty)),
          List.takeWhile_cons_of_neg hkept, List.dropWhile_cons_of_neg hkept]
        rfl

theorem isSkipped_comp_toList : (isSkipped ∘ String.toList) ∘ String.ofList = isSkipped :=
  funext fun _ => congrArg isSkipped String.toList_ofList

/-- An empty line behind the last one is no part of the query. -/
theorem queryIn_concat_nil (lines : List (List Char)) :
    queryIn (lines ++ [[]]) = queryIn lines := by
  rw [queryIn, List.dropWhile_append]
  split
  · rename_i hnil
    rw [queryIn, List.isEmpty_iff.1 hnil]
    rfl
  · rename_i hne
    rw [Text.intercalate_append (by simpa [List.isEmpty_iff] using hne) (List.cons_ne_nil _ _),
      List.intercalate_singleton, List.append_nil,
      Text.trimWhile_append_right _ (List.all_eq_true.1 (by decide)), queryIn]

/-- **The query that is read from a text** is the one in its pieces between line ends. -/
theorem toList_select_parse {content : String} (h : '\r' ∉ content.toList) :
    (parse content).select.toList = queryIn (content.toList.splitOnP isLineEnd) := by
  have hbody : (parse content).body =
      ((Text.linesFrom content.toList []).dropWhile isSkipped).map String.ofList := by
    rw [parse, ofLines_eq rfl, Text.lines, List.dropWhile_map, isSkipped_comp_toList]
  have hselect : (parse content).select.toList = queryIn (Text.linesFrom content.toList []) := by
    rw [select, Text.trim, String.toList_ofList, String.toList_intercalate, hbody, List.map_map]
    have hid : String.toList ∘ String.ofList = id := funext fun cs => String.toList_ofList
    rw [hid, List.map_id]
    rfl
  obtain ⟨rest, hrest, hsplit⟩ := Text.exists_splitOnP_eq h
  rw [hselect, hsplit]
  obtain rfl | rfl := hrest
  · rw [List.append_nil]
  · exact (queryIn_concat_nil _).symm

end ViewFile

/-! ## Files -/

namespace Files

open ViewFile

variable {files : Files} {p : Path} {bytes : List UInt8} {cs : List Char}

/-- What is read from a file that can be read. -/
theorem view_eq (hread : files.read p = .ok bytes) (hdecode : Text.decodeUtf8? bytes = some cs) :
    files.view p =
      .ok ((parse (String.ofList (Text.normalizeLineEnds cs))).toView p.stem) := by
  rw [view, readText, hread]
  simp only [hdecode]
  rfl

/-- **The query of a view in a file** is the one in its pieces between line ends. It is what stands
in the file behind the comments, where lines end at line feeds and carriage returns alone, exactly
if no comment leaks and no other line ends stand in it. -/
theorem select_of_view (hread : files.read p = .ok bytes)
    (hdecode : Text.decodeUtf8? bytes = some cs) :
    ∃ v select, files.view p = .ok v ∧ v.select = .str select ∧
      select.toList = queryIn ((Text.normalizeLineEnds cs).splitOnP isLineEnd) ∧
      (select.toList = queryIn (splitAtChar '\n' (Text.normalizeLineEnds cs)) ↔
        ¬ LeaksFrom (splitAtChar '\n' (Text.normalizeLineEnds cs)) ∧
          ∀ c ∈ queryIn (splitAtChar '\n' (Text.normalizeLineEnds cs)),
            isLineEnd c = true → c = '\n') := by
  have hselect : (parse (String.ofList (Text.normalizeLineEnds cs))).select.toList =
      queryIn ((Text.normalizeLineEnds cs).splitOnP isLineEnd) := by
    rw [toList_select_parse, String.toList_ofList]
    rw [String.toList_ofList]
    exact Text.not_mem_normalizeLineEnds cs
  refine ⟨_, _, view_eq hread hdecode, rfl, hselect, ?_⟩
  rw [hselect]
  exact queryIn_splitOnP_eq_iff

end Files

/-- A directory with a view file of ASCII in it. -/
def notesFile (content : String) : Files :=
  FileTree.files [(["notes.sql"], content.toList.map fun c => c.toNat.toUInt8)]

theorem read_notesFile (content : String) : (notesFile content).read (.ofText "notes.sql") =
    .ok (content.toList.map fun c => c.toNat.toUInt8) :=
  rfl

/-- **A query is read as it stands in the file**, but not one with a form feed in it, nor one behind
a comment with a vertical tab. -/
theorem select_of_notes :
    (∃ v select, (notesFile "-- @name: notes\r\nSELECT 1 -- all\r\n").view (.ofText "notes.sql") =
        .ok v ∧ v.select = .str select ∧ select = "SELECT 1 -- all") ∧
      (∃ v select, (notesFile "SELECT 'a\x0cb'").view (.ofText "notes.sql") = .ok v ∧
        v.select = .str select ∧ select ≠ "SELECT 'a\x0cb'") ∧
      ∃ v select, (notesFile "-- notes\x0bshort\nSELECT 1").view (.ofText "notes.sql") = .ok v ∧
        v.select = .str select ∧ select ≠ "SELECT 1" := by
  have hcase : ∀ (content query : String) (cs : List Char),
      Text.decodeUtf8? (content.toList.map fun c => c.toNat.toUInt8) = some cs →
        ViewFile.queryIn (splitAtChar '\n' (Text.normalizeLineEnds cs)) = query.toList →
        ∃ v select, (notesFile content).view (.ofText "notes.sql") = .ok v ∧
          v.select = .str select ∧
          (select = query ↔ ¬ ViewFile.LeaksFrom (splitAtChar '\n' (Text.normalizeLineEnds cs)) ∧
            (query.toList.all fun c => !isLineEnd c || c == '\n') = true) := by
    intro content query cs hdecode hquery
    obtain ⟨v, select, hview, hselect, -, hiff⟩ :=
      Files.select_of_view (read_notesFile content) hdecode
    rw [hquery, Text.forall_isLineEnd_iff] at hiff
    exact ⟨v, select, hview, hselect, String.toList_inj.symm.trans hiff⟩
  refine ⟨?_, ?_, ?_⟩
  · obtain ⟨v, select, hview, hselect, hiff⟩ := hcase "-- @name: notes\r\nSELECT 1 -- all\r\n"
      "SELECT 1 -- all" "-- @name: notes\r\nSELECT 1 -- all\r\n".toList
      (by decide +kernel) (by decide +kernel)
    exact ⟨v, select, hview, hselect, hiff.2 (by decide +kernel)⟩
  · obtain ⟨v, select, hview, hselect, hiff⟩ := hcase "SELECT 'a\x0cb'" "SELECT 'a\x0cb'"
      "SELECT 'a\x0cb'".toList (by decide +kernel) (by decide +kernel)
    exact ⟨v, select, hview, hselect, fun heq => absurd (hiff.1 heq) (by decide +kernel)⟩
  · obtain ⟨v, select, hview, hselect, hiff⟩ := hcase "-- notes\x0bshort\nSELECT 1" "SELECT 1"
      "-- notes\x0bshort\nSELECT 1".toList (by decide +kernel) (by decide +kernel)
    exact ⟨v, select, hview, hselect, fun heq => absurd (hiff.1 heq) (by decide +kernel)⟩

end Tablewright
