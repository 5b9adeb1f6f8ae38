import Tablewright.Proofs.Schema.ViewQuery

/-!
# What a view file says

Before its query a view file says in comments what the view is called, what its columns are and
whether it is temporary. Each remark is about one thing, so a header may give them in any order and
have blank lines and other comments among them: what is read back is what was written
(`Files.view_of_source`).
-/

namespace Tablewright

open Text (isBlank isLineEnd trimWhile trimEndWhile unify)

namespace ViewFile

variable {v : ViewFile} {header : List String} {s t opening : String} {names : List String}

/-! ## Remarks -/

/-- What a comment says of a view. -/
inductive Remark where
  | name (s : String)
  | columns (names : List String)
  | temporary (answer : Bool)
  deriving DecidableEq

/-- Takes in what a comment says. -/
def remember (v : ViewFile) : Remark → ViewFile
  | .name s => { v with name := some s }
  | .columns names => { v with columns := some names }
  | .temporary answer => { v with temporary := answer }

/-- Two remarks that do not contradict each other: they are about different things, or the same. -/
def Remark.Agrees : Remark → Remark → Prop
  | name s, name t => s = t
  | columns names, columns names' => names = names'
  | temporary answer, temporary answer' => answer = answer'
  | _, _ => True

/-- Remarks that agree may come in either order. -/
theorem Remark.Agrees.remember_comm {r r' : Remark} (h : r.Agrees r') (v : ViewFile) :
    (v.remember r).remember r' = (v.remember r').remember r := by
  cases r <;> cases r' <;> first | rfl | rw [show _ = _ from h]

/-- The text of a comment, without the dashes before it. -/
def commentText (line : String) : String :=
  Text.trim (String.ofList ((Text.trim line).toList.dropWhile (· == '-')))

/-- What a line says of a view, if it says something. -/
def remark? (line : String) : Option Remark :=
  match behind? "@name:" (commentText line) with
  | some name => some (.name (Text.trim name))
  | none =>
    match behind? "@columns:" (commentText line) with
    | some columns => some (.columns (nameList columns))
    | none =>
      (behind? "@temporary:" (commentText line)).map fun answer => .temporary (saysYes answer)

theorem annotate_trim (v : ViewFile) (line : String) :
    v.annotate (Text.trim line) = ((remark? line).map v.remember).getD v := by
  dsimp only [annotate, remark?]
  rw [← commentText]
  cases behind? "@name:" (commentText line) with
  | some name => rfl
  | none =>
    cases behind? "@columns:" (commentText line) with
    | some columns => rfl
    | none => cases behind? "@temporary:" (commentText line) <;> rfl

/-- What some lines say of a view. -/
def remarks (lines : List String) : List Remark :=
  lines.filterMap remark?

theorem annotateAll_eq (v : ViewFile) (lines : List String) :
    v.annotateAll lines = (remarks lines).foldl remember v := by
  induction lines generalizing v with
  | nil => rfl
  | cons line lines ih =>
    rw [annotateAll_cons, ih, annotate_trim, remarks, remarks, List.filterMap_cons]
    cases remark? line <;> rfl

/-! ## Reading remarks back -/

/-- A trimmed text, as characters. -/
theorem toList_of_trim_eq (h : Text.trim s = s) : trimWhile isBlank s.toList = s.toList := by
  rw [← String.toList_ofList (l := trimWhile isBlank s.toList)]
  exact congrArg String.toList h

/-- The text of a comment that is written behind two dashes and a space. -/
theorem commentText_dashes (s : String) : commentText ("-- " ++ s) = Text.trim s := by
  have hline : ("-- " ++ s).toList = ['-', '-'] ++ ' ' :: s.toList := by
    rw [String.toList_append]
    rfl
  have htrim : (Text.trim ("-- " ++ s)).toList =
      ['-', '-'] ++ trimEndWhile isBlank (' ' :: s.toList) := by
    rw [Text.trim, hline, Text.trimWhile_append _ (by decide)
      (Text.forall_eq_false_of_any (by decide)), String.toList_ofList]
  have hdashes : ∀ c ∈ ['-', '-'], (c == '-') = true := List.all_eq_true.1 (by decide)
  have hspace : (trimEndWhile isBlank (' ' :: s.toList)).dropWhile (· == '-') =
      trimEndWhile isBlank (' ' :: s.toList) := by
    obtain ⟨rest, hrest⟩ := List.rdropWhile_prefix isBlank (' ' :: s.toList)
    change List.dropWhile _ ((' ' :: s.toList).rdropWhile isBlank) = (' ' :: s.toList).rdropWhile _
    cases htext : (' ' :: s.toList).rdropWhile isBlank with
    | nil => rfl
    | cons c cs =>
      rw [htext, List.cons_append] at hrest
      obtain ⟨rfl, -⟩ := List.cons.inj hrest
      rfl
  have hblank : ∀ c ∈ [' '], isBlank c = true := List.all_eq_true.1 (by decide)
  rw [commentText, htrim, List.dropWhile_append_of_pos hdashes, hspace, Text.trim,
    String.toList_ofList, Text.trimWhile_trimEndWhile, ← List.singleton_append,
    Text.trimWhile_append_left _ hblank, Text.trim]

/-- An opening is not trimmed away. -/
theorem toList_trim_opening (hne : opening ≠ "") (h : opening.toList.any isBlank = false)
    (rest : String) : (Text.trim (opening ++ rest)).toList =
      opening.toList ++ trimEndWhile isBlank rest.toList := by
  rw [Text.trim, String.toList_append, Text.trimWhile_append _ (by simpa using hne)
    (Text.forall_eq_false_of_any h), String.toList_ofList]

/-- What stands behind an opening, blanks at the end aside. -/
theorem behind?_trim (hne : opening ≠ "") (h : opening.toList.any isBlank = false)
    (rest : String) : behind? opening (Text.trim (opening ++ rest)) = some (Text.trimEnd rest) := by
  rw [behind?, toList_trim_opening hne h,
    if_pos (List.isPrefixOf_iff_prefix.2 (List.prefix_append _ _)), ← String.length_toList,
    List.drop_left, Text.trimEnd]

/-- Nothing stands behind another opening that is no longer. -/
theorem behind?_trim_other {other : String} (hne : opening ≠ "")
    (h : opening.toList.any isBlank = false)
    (hlength : other.toList.length ≤ opening.toList.length)
    (hother : ¬ other.toList <+: opening.toList) (rest : String) :
    behind? other (Text.trim (opening ++ rest)) = none := by
  rw [behind?, toList_trim_opening hne h, if_neg fun hprefix => hother ?_]
  exact List.prefix_of_prefix_length_le (List.isPrefixOf_iff_prefix.1 hprefix)
    (List.prefix_append _ _) hlength

/-- A space before a text and blanks behind it are trimmed away. -/
theorem trim_trimEnd_space (s : String) : Text.trim (Text.trimEnd (" " ++ s)) = Text.trim s := by
  have hblank : ∀ c ∈ " ".toList, isBlank c = true := List.all_eq_true.1 (by decide)
  rw [Text.trim, Text.trimEnd, String.toList_ofList, Text.trimWhile_trimEndWhile,
    String.toList_append, Text.trimWhile_append_left _ hblank, Text.trim]

/-- Names between commas, with a space before each. -/
theorem toList_intercalate_comma (hne : names ≠ []) :
    (" " ++ ", ".intercalate names).toList =
      [','].intercalate (names.map fun n => ' ' :: n.toList) := by
  induction names with
  | nil => exact absurd rfl hne
  | cons n names ih =>
    cases names with
    | nil =>
      rw [String.intercalate_singleton, String.toList_append, List.map_singleton,
        List.intercalate_singleton]
      rfl
    | cons next names =>
      have hrest := ih (List.cons_ne_nil _ _)
      rw [List.map_cons] at hrest
      rw [List.map_cons, List.map_cons, List.intercalate_cons_cons, ← hrest,
        String.intercalate_cons_cons]
      have hseparator : ", ".toList = [','] ++ " ".toList := rfl
      simp only [String.toList_append, hseparator, List.append_assoc]
      rfl

/-- The last name stands at the end. -/
theorem exists_intercalate_comma_eq (init : List String) (last : String) :
    ∃ before, (" " ++ ", ".intercalate (init ++ [last])).toList = before ++ last.toList := by
  rw [toList_intercalate_comma (by simp), List.map_append, List.map_singleton]
  cases init with
  | nil => exact ⟨[' '], by rw [List.map_nil, List.nil_append, List.intercalate_singleton]; rfl⟩
  | cons n init =>
    refine ⟨[','].intercalate ((n :: init).map fun n => ' ' :: n.toList) ++ [',', ' '], ?_⟩
    rw [Text.intercalate_append (by simp) (by simp), List.intercalate_singleton, List.append_assoc,
      List.append_assoc]
    rfl

/-- **Names are read back** as they are written, separated by commas and spaces. -/
theorem nameList_trimEnd (h : ∀ n ∈ names, n ≠ "" ∧ Text.trim n = n ∧ ',' ∉ n.toList) :
    nameList (Text.trimEnd (" " ++ ", ".intercalate names)) = names := by
  rcases List.eq_nil_or_concat' names with rfl | ⟨init, last, hnames⟩
  · decide +kernel
  · have hne : names ≠ [] := by simp [hnames]
    have hlast : last ∈ names := by simp [hnames]
    obtain ⟨before, hbefore⟩ := exists_intercalate_comma_eq init last
    rw [← hnames] at hbefore
    -- no blank stands at the end, since none does in the last name
    have hsame : Text.trimEnd (" " ++ ", ".intercalate names) = " " ++ ", ".intercalate names := by
      rw [Text.trimEnd, hbefore, Text.trimEndWhile_append_of_trimmed _
        (by simpa using (h last hlast).1) (toList_of_trim_eq (h last hlast).2.1), ← hbefore,
        String.ofList_toList]
    have hsplit : Text.splitAtChar ',' (" " ++ ", ".intercalate names).toList =
        names.map fun n => ' ' :: n.toList := by
      refine Text.splitAtChar_eq_iff.2 ⟨by simpa using hne, ?_, toList_intercalate_comma hne⟩
      intro piece hpiece
      obtain ⟨n, hn, rfl⟩ := List.mem_map.1 hpiece
      exact List.not_mem_cons_of_ne_of_not_mem (by decide) (h n hn).2.2
    have htrim :
        ((names.map fun n => ' ' :: n.toList).map String.ofList).map Text.trim = names := by
      rw [List.map_map, List.map_map]
      refine (List.map_congr_left fun n hn => ?_).trans (List.map_id names)
      rw [Function.comp_apply, Function.comp_apply, Text.trim, String.toList_ofList,
        ← List.singleton_append, Text.trimWhile_append_left _ (List.all_eq_true.1 (by decide)),
        ← Text.trim]
      exact (h n hn).2.1
    rw [hsame, nameList, hsplit, htrim]
    exact List.filter_eq_self.2 fun n hn => bne_iff_ne.2 (h n hn).1

/-! ## Headers -/

/-- A view as it is to be written into a file. -/
structure Source where
  /-- The name. -/
  name : String
  /-- The columns, if they are given. -/
  columns : Option (List String)
  /-- Whether the view is temporary. -/
  temporary : Bool
  /-- The query. -/
  query : String

namespace Source

variable {source : Source}

/-- A view that a file can hold. -/
structure Valid (source : Source) : Prop where
  /-- There is a name, without blanks around it. -/
  name : source.name ≠ "" ∧ Text.trim source.name = source.name
  /-- Columns have names without commas and without blanks around them. -/
  columns : ∀ names ∈ source.columns, ∀ n ∈ names, n ≠ "" ∧ Text.trim n = n ∧ ',' ∉ n.toList
  /-- There is a query, without blanks around it. -/
  query : source.query ≠ "" ∧ Text.trim source.query = source.query
  /-- Its lines end in line feeds. -/
  feeds : ∀ c ∈ source.query.toList, isLineEnd c = true → c = '\n'
  /-- Its first line is no comment. -/
  begins : ¬ ['-', '-'] <+: source.query.toList

/-- What the annotations of a view say. -/
def remarks (source : Source) : List Remark :=
  .name source.name :: ((source.columns.map .columns).toList ++
    if source.temporary then [.temporary true] else [])

/-- The annotations of a view. -/
def annotations (source : Source) : List String :=
  ("-- @name: " ++ source.name) ::
    ((source.columns.map fun names => "-- @columns: " ++ ", ".intercalate names).toList ++
      if source.temporary then ["-- @temporary: true"] else [])

/-- The view itself. -/
def toView (source : Source) : View :=
  { name := .str source.name
    select := .str source.query
    columns := match source.columns with
      | some names => .ofTexts names
      | none => .null
    temporary := .bool source.temporary
    ifNotExists := .bool true }

/-- Each annotation says what it is to say. -/
theorem remarks_annotations (h : source.Valid) :
    ViewFile.remarks source.annotations = source.remarks := by
  have hname : remark? ("-- @name: " ++ source.name) = some (.name source.name) := by
    have hparts : "-- @name: " = "-- " ++ ("@name:" ++ " ") := by decide
    have htext : commentText ("-- @name: " ++ source.name) =
        Text.trim ("@name:" ++ (" " ++ source.name)) := by
      rw [hparts, String.append_assoc, String.append_assoc, commentText_dashes]
    unfold remark?
    rw [htext, behind?_trim (by decide) (by decide)]
    simp only [trim_trimEnd_space, h.name.2]
  have hcolumns : ∀ names ∈ source.columns,
      remark? ("-- @columns: " ++ ", ".intercalate names) = some (.columns names) := by
    intro names hnames
    have hparts : "-- @columns: " = "-- " ++ ("@columns:" ++ " ") := by decide
    have htext : commentText ("-- @columns: " ++ ", ".intercalate names) =
        Text.trim ("@columns:" ++ (" " ++ ", ".intercalate names)) := by
      rw [hparts, String.append_assoc, String.append_assoc, commentText_dashes]
    unfold remark?
    rw [htext, behind?_trim_other (by decide) (by decide) (by decide) (by decide),
      behind?_trim (by decide) (by decide)]
    simp only [nameList_trimEnd (h.columns names hnames)]
  have htemporary : remark? "-- @temporary: true" = some (.temporary true) := by
    decide +kernel
  have hoptional : (source.columns.map fun names =>
        "-- @columns: " ++ ", ".intercalate names).toList.filterMap remark? =
      (source.columns.map .columns).toList := by
    cases hgiven : source.columns with
    | none => rfl
    | some names =>
      rw [Option.map_some, Option.toList_some, List.filterMap_cons, hcolumns names hgiven]
      rfl
  rw [ViewFile.remarks, annotations, List.filterMap_cons, hname, List.filterMap_append, hoptional,
    remarks]
  cases source.temporary with
  | false => rfl
  | true =>
    rw [if_pos rfl, if_pos rfl, List.filterMap_cons, htemporary]
    rfl

theorem mem_remarks_iff {r : Remark} : r ∈ source.remarks ↔
    r = .name source.name ∨ (∃ names, source.columns = some names ∧ r = .columns names) ∨
      source.temporary = true ∧ r = .temporary true := by
  unfold remarks
  cases source.columns <;> cases source.temporary <;> simp

/-- The annotations of a view do not contradict each other. -/
theorem agrees_of_mem_remarks {r r' : Remark} (hr : r ∈ source.remarks)
    (hr' : r' ∈ source.remarks) : r.Agrees r' := by
  rw [mem_remarks_iff] at hr hr'
  rcases hr with rfl | ⟨names, hnames, rfl⟩ | ⟨-, rfl⟩ <;>
    rcases hr' with rfl | ⟨names', hnames', rfl⟩ | ⟨-, rfl⟩ <;>
    first | trivial | exact rfl | exact Option.some.inj (hnames.symm.trans hnames')

/-- Everything that is given of a view is said by its annotations. -/
theorem foldl_remarks (source : Source) : source.remarks.foldl remember {} =
    { name := some source.name, columns := source.columns, temporary := source.temporary } := by
  unfold remarks
  cases source.columns <;> cases source.temporary <;> rfl

/-- Annotations are comments. -/
theorem isSkipped_of_mem_annotations {line : String} (h : line ∈ source.annotations) :
    isSkipped line.toList = true := by
  have hdashes : ∀ opening rest : String, ['-', '-'] <+: opening.toList →
      isSkipped (opening ++ rest).toList = true := by
    intro opening rest hprefix
    obtain ⟨cs, hcs⟩ := hprefix
    have hopens : opensComment (opening ++ rest).toList = true := by
      rw [String.toList_append, ← hcs]
      rfl
    rw [isSkipped, hopens, Bool.or_true]
  simp only [annotations, List.mem_cons, List.mem_append, Option.mem_toList,
    Option.map_eq_some_iff] at h
  rcases h with rfl | ⟨names, -, rfl⟩ | h
  · exact hdashes _ _ (by decide)
  · exact hdashes _ _ (by decide)
  · split at h
    · rw [List.mem_singleton.1 h]
      decide
    · exact absurd h List.not_mem_nil

end Source

/-- A blank line, or a comment without an annotation. -/
def IsPlain (line : String) : Prop :=
  isSkipped line.toList = true ∧ ∀ opening ∈ ["@name:", "@columns:", "@temporary:"],
    ¬ opening.toList <+: (commentText line).toList

instance (line : String) : Decidable (IsPlain line) :=
  inferInstanceAs (Decidable (_ ∧ _))

/-- A plain line says nothing. -/
theorem IsPlain.remark?_eq_none {line : String} (h : IsPlain line) : remark? line = none := by
  have hnone : ∀ opening ∈ ["@name:", "@columns:", "@temporary:"],
      behind? opening (commentText line) = none := by
    intro opening hopening
    rw [behind?, if_neg fun hprefix => h.2 opening hopening (List.isPrefixOf_iff_prefix.1 hprefix)]
  unfold remark?
  rw [hnone "@name:" (by decide), hnone "@columns:" (by decide), hnone "@temporary:" (by decide)]
  rfl

/-- A header of a view: its annotations in some order, with plain lines among them. -/
structure Source.Heads (source : Source) (header : List String) : Prop where
  /-- There is nothing else in it. -/
  lines : ∃ plain, header.Perm (source.annotations ++ plain) ∧ ∀ line ∈ plain, IsPlain line
  /-- Each of its lines is one. -/
  single : ∀ line ∈ header, ∀ c ∈ line.toList, isLineEnd c = false

namespace Source.Heads

variable {source : Source}

/-- All of a header is passed over. -/
theorem isSkipped (h : source.Heads header) {line : String} (hline : line ∈ header) :
    ViewFile.isSkipped line.toList = true := by
  obtain ⟨plain, hperm, hplain⟩ := h.lines
  rcases List.mem_append.1 (hperm.mem_iff.1 hline) with hline | hline
  · exact isSkipped_of_mem_annotations hline
  · exact (hplain line hline).1

/-- **A header says what its view is**, whatever the order of its lines. -/
theorem foldl_remarks (h : source.Heads header) (hs : source.Valid) :
    (ViewFile.remarks header).foldl remember {} =
      { name := some source.name, columns := source.columns, temporary := source.temporary } := by
  obtain ⟨plain, hperm, hplain⟩ := h.lines
  have hnone : plain.filterMap remark? = [] :=
    List.filterMap_eq_nil_iff.2 fun line hline => (hplain line hline).remark?_eq_none
  have hremarks : (ViewFile.remarks header).Perm source.remarks := by
    have hsame := hperm.filterMap remark?
    rw [List.filterMap_append, hnone, List.append_nil] at hsame
    rw [← remarks_annotations hs]
    exact hsame
  rw [← source.foldl_remarks]
  -- a fold over steps that commute does not depend on their order
  refine (hremarks.symm.foldl_eq' (fun r hr r' hr' v => ?_) _).symm
  exact (agrees_of_mem_remarks hr hr').remember_comm v

end Source.Heads

/-! ## Whole files -/

/-- What an empty line behind the last one says. -/
theorem remarks_takeWhile_concat_nil (lines : List (List Char)) :
    remarks (((lines ++ [[]]).takeWhile isSkipped).map String.ofList) =
      remarks ((lines.takeWhile isSkipped).map String.ofList) := by
  rw [List.takeWhile_append]
  split
  · rename_i hall
    have hsame : lines.takeWhile isSkipped = lines :=
      (List.takeWhile_prefix _).eq_of_length hall
    rw [hsame, remarks, List.map_append, List.filterMap_append]
    exact List.append_nil _
  · rfl

/-- **What is read from a text**: what its first lines say, and a query. -/
theorem exists_parse_eq {content : String} (h : '\r' ∉ content.toList) :
    ∃ body, parse content = { (remarks (((content.toList.splitOnP isLineEnd).takeWhile
      isSkipped).map String.ofList)).foldl remember {} with body } := by
  obtain ⟨rest, hrest, hsplit⟩ := Text.exists_splitOnP_eq h
  have hsame : remarks (((content.toList.splitOnP isLineEnd).takeWhile isSkipped).map
      String.ofList) = remarks ((Text.lines content).takeWhile (isSkipped ∘ String.toList)) := by
    rw [Text.lines, List.takeWhile_map, isSkipped_comp_toList, hsplit]
    obtain rfl | rfl := hrest
    · rw [List.append_nil]
    · exact remarks_takeWhile_concat_nil _
  rw [parse, ofLines_eq rfl, annotateAll_eq, ← hsame]
  exact ⟨_, rfl⟩

namespace Source

variable {source : Source} {ending cs : List Char}

/-- A query begins with a character that is not blank. -/
theorem Valid.exists_query_eq (h : source.Valid) :
    ∃ c rest, source.query.toList = c :: rest ∧ isBlank c = false := by
  have htrimmed := toList_of_trim_eq h.query.2
  obtain ⟨c, rest, heq⟩ : ∃ c rest, source.query.toList = c :: rest :=
    List.exists_cons_of_ne_nil (by simpa using h.query.1)
  rw [heq] at htrimmed
  exact ⟨c, rest, heq, Text.not_of_trimWhile_cons htrimmed⟩

/-- A query does not begin with a comment, whatever blanks are behind it. -/
theorem Valid.not_opensComment (h : source.Valid) (hending : ∀ c ∈ ending, isBlank c = true) :
    opensComment (source.query.toList ++ ending) = false := by
  obtain ⟨c, rest, heq, hc⟩ := h.exists_query_eq
  have hvisible : ¬ source.query.toList.all isBlank = true := by
    rw [heq, List.all_cons, hc]
    exact Bool.false_ne_true
  have hdash : ending.head? ≠ some '-' := by
    intro hhead
    have hblank := hending '-' (List.mem_of_head? hhead)
    revert hblank
    decide
  have hfirst : source.query.toList.dropWhile isBlank = source.query.toList := by
    rw [heq]
    exact List.dropWhile_cons_of_neg (Bool.eq_false_iff.1 hc)
  rw [opensComment_append_right hvisible hdash, opensComment, hfirst, Bool.eq_false_iff, Ne,
    List.isPrefixOf_iff_prefix]
  exact h.begins

/-- The first line of a query is not passed over. -/
theorem Valid.exists_first (h : source.Valid) (hending : ∀ c ∈ ending, isBlank c = true) :
    ∃ first more, (source.query.toList ++ ending).splitOnP isLineEnd = first :: more ∧
      ViewFile.isSkipped first = false := by
  obtain ⟨c, rest, heq, hc⟩ := h.exists_query_eq
  have hend : ¬ isLineEnd c = true := fun hend => by
    rw [Text.isBlank_of_isLineEnd hend] at hc
    cases hc
  obtain ⟨first, more, hpieces⟩ :=
    List.exists_cons_of_ne_nil (List.splitOnP_ne_nil isLineEnd (rest ++ ending))
  have hsplit : (source.query.toList ++ ending).splitOnP isLineEnd = (c :: first) :: more := by
    rw [heq, List.cons_append, List.splitOnP_cons_eq_if_modifyHead, if_neg hend, hpieces,
      List.modifyHead_cons]
  have hvisible : ¬ (c :: first).all isBlank = true := by
    rw [List.all_cons, hc]
    exact Bool.false_ne_true
  refine ⟨c :: first, more, hsplit, ?_⟩
  rw [isSkipped_eq hvisible, ← opensComment_intercalate more hvisible, ← hsplit,
    Text.intercalate_splitOnP, opensComment_unify]
  exact h.not_opensComment hending

/-- The query in the lines of a query, with or without blanks behind it. -/
theorem Valid.queryIn_eq (h : source.Valid) (hending : ∀ c ∈ ending, isBlank c = true) :
    queryIn ((source.query.toList ++ ending).splitOnP isLineEnd) = source.query.toList := by
  have hopens : opensComment (['\n'].intercalate
      ((source.query.toList ++ ending).splitOnP isLineEnd)) = false := by
    rw [Text.intercalate_splitOnP, opensComment_unify]
    exact h.not_opensComment hending
  rw [queryIn_of_not_opensComment hopens, Text.intercalate_splitOnP, Text.trimWhile_unify,
    Text.trimWhile_append_right _ hending, toList_of_trim_eq h.query.2,
    Text.unify_eq_self_iff.2 h.feeds]

/-- The text of a file: the lines of a header, each with what ends it, and a query. -/
def text (source : Source) (header : List (String × Char)) (ending : List Char) : List Char :=
  header.flatMap (fun e => e.1.toList ++ [e.2]) ++ (source.query.toList ++ ending)

variable {header : List (String × Char)}

/-- The lines of such a text. -/
theorem splitOnP_text (h : source.Heads (header.map Prod.fst))
    (hends : ∀ e ∈ header, isLineEnd e.2 = true) (ending : List Char) :
    (source.text header ending).splitOnP isLineEnd = (header.map Prod.fst).map String.toList ++
      (source.query.toList ++ ending).splitOnP isLineEnd := by
  have hlines : ∀ e ∈ header.map fun e => (e.1.toList, e.2),
      (∀ c ∈ e.1, isLineEnd c = false) ∧ isLineEnd e.2 = true := by
    intro e he
    obtain ⟨line, hline, rfl⟩ := List.mem_map.1 he
    exact ⟨h.single line.1 (List.mem_map_of_mem hline), hends line hline⟩
  have hsplit := Text.splitOnP_lines hlines (source.query.toList ++ ending)
  rw [List.flatMap_map, List.map_map] at hsplit
  rw [text, hsplit, List.map_map]
  rfl

/-- **What is read from such a text.** -/
theorem toView_parse (hs : source.Valid) (h : source.Heads (header.map Prod.fst))
    (hends : ∀ e ∈ header, isLineEnd e.2 = true) (hending : ∀ c ∈ ending, isBlank c = true)
    (hreturn : '\r' ∉ source.text header ending) (stem : String) :
    (parse (String.ofList (source.text header ending))).toView stem = source.toView := by
  rw [← String.toList_ofList (l := source.text header ending)] at hreturn
  have hskipped : ∀ line ∈ (header.map Prod.fst).map String.toList,
      ViewFile.isSkipped line = true := by
    intro line hline
    obtain ⟨text, htext, rfl⟩ := List.mem_map.1 hline
    exact h.isSkipped htext
  have hselect : (parse (String.ofList (source.text header ending))).select = source.query := by
    rw [← String.toList_inj, toList_select_parse hreturn, String.toList_ofList,
      splitOnP_text h hends, queryIn_append hskipped, hs.queryIn_eq hending]
  have hheader : (((source.text header ending).splitOnP isLineEnd).takeWhile
      ViewFile.isSkipped).map String.ofList = header.map Prod.fst := by
    obtain ⟨first, more, hpieces, hkept⟩ := hs.exists_first hending
    have hstop : (first :: more).takeWhile ViewFile.isSkipped = [] :=
      List.takeWhile_cons_of_neg (Bool.eq_false_iff.1 hkept)
    rw [splitOnP_text h hends, hpieces, List.takeWhile_append_of_pos hskipped, hstop,
      List.append_nil, List.map_map]
    exact (List.map_congr_left fun _ _ => String.ofList_toList).trans (List.map_id _)
  obtain ⟨body, hbody⟩ := exists_parse_eq hreturn
  rw [String.toList_ofList, hheader, h.foldl_remarks hs] at hbody
  have hname : (if source.name == "" then stem else source.name) = source.name :=
    if_neg fun hempty => hs.name.1 (beq_iff_eq.1 hempty)
  rw [ViewFile.toView, hselect, hbody]
  exact congrArg (fun name => { source.toView with name := .str name }) hname

end Source

end ViewFile

open ViewFile in
/-- **A view is read back from a file** that is written in the documented format: annotations in any
order, with blank lines and other comments among them, and the query behind them. -/
theorem Files.view_of_source {files : Files} {p : Path} {bytes : List UInt8} {cs ending : List Char}
    {source : Source} {header : List (String × Char)} (hs : source.Valid)
    (h : source.Heads (header.map Prod.fst)) (hends : ∀ e ∈ header, isLineEnd e.2 = true)
    (hending : ∀ c ∈ ending, isBlank c = true) (hread : files.read p = .ok bytes)
    (hdecode : Text.decodeUtf8? bytes = some cs)
    (htext : Text.normalizeLineEnds cs = source.text header ending) :
    files.view p = .ok source.toView := by
  have hreturn : '\r' ∉ source.text header ending := by
    rw [← htext]
    exact Text.not_mem_normalizeLineEnds cs
  rw [Files.view_eq hread hdecode, htext, Source.toView_parse hs h hends hending hreturn]

/-- A view of some columns, with a line in its query that looks like an annotation. -/
def activeUsers : ViewFile.Source :=
  { name := "active_users"
    columns := some ["id", "email"]
    temporary := true
    query := "SELECT id, email\n-- @name: other\nFROM users" }

/-- A header with the annotations of that view in another order, a blank line and a comment. -/
def activeUsersHeader : List (String × Char) :=
  [("-- those who are left", '\n'), ("-- @temporary: true", '\n'), ("  ", '\n'),
    ("-- @columns: id, email", '\n'), ("-- @name: active_users", '\n')]

/-- The text of a file with that view, in which lines end as they do on some systems. -/
def activeUsersText : String :=
  "-- those who are left\r\n-- @temporary: true\r\n  \r\n-- @columns: id, email\r\n" ++
    "-- @name: active_users\r\nSELECT id, email\r\n-- @name: other\r\nFROM users\r\n"

/-- **A view is read back** whatever looks like an annotation in its query. -/
theorem view_of_activeUsers :
    (notesFile activeUsersText).view (.ofText "notes.sql") = .ok activeUsers.toView := by
  have hvalid : activeUsers.Valid :=
    { name := by decide +kernel
      columns := by
        rintro names hnames
        obtain rfl : ["id", "email"] = names := Option.some.inj hnames
        decide +kernel
      query := by decide +kernel
      feeds := Text.forall_isLineEnd_iff.2 (by decide +kernel)
      begins := by decide +kernel }
  have hsingle : ∀ line ∈ activeUsersHeader.map Prod.fst, line.toList.any isLineEnd = false := by
    decide +kernel
  have hheads : activeUsers.Heads (activeUsersHeader.map Prod.fst) :=
    { lines := ⟨["-- those who are left", "  "], by decide +kernel, by decide +kernel⟩
      single := fun line hline => Text.forall_eq_false_of_any (hsingle line hline) }
  have hending : ∀ c ∈ ['\n'], isBlank c = true := List.all_eq_true.1 (by decide)
  have hdecode : Text.decodeUtf8? (activeUsersText.toList.map fun c => c.toNat.toUInt8) =
      some activeUsersText.toList := by
    decide +kernel
  have htext : Text.normalizeLineEnds activeUsersText.toList =
      activeUsers.text activeUsersHeader ['\n'] := by
    decide +kernel
  exact Files.view_of_source hvalid hheads (by decide +kernel) hending
    (read_notesFile activeUsersText) hdecode htext

end Tablewright
