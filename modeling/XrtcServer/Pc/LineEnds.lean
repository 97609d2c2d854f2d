import Mathlib.Data.List.TakeWhile
import XrtcServer.Pc.ReferenceParser
import XrtcServer.Pc.SdpSection

/-!
# Line ends

Whether the lines of a text end with CRLF is decided once, and then a byte is cut from every line.
When the last line of such a text has no line end, the byte that is cut is its last one.

## From four texts to two lines

Some lines can be written down in four ways, with LF or CRLF between them, and with or without a
line end after the last one. `sdpLines_joinLines` says which lines the loop gets from a text; of the
four ways one gives other lines, and these differ in the last line alone, which has lost a byte.
`sameResult_iff_last` leaves this line and its shortened form, in the state in which the loop comes
to them.

## Lines that end in nothing

`EndUnread` says which lines are read alike without their last byte: those without a keyword, media
lines that have their three items without that byte, and source lines with an attribute that is not
kept. A line that is not reached makes no difference either.
-/

namespace XrtcServer

open ByteString

/-- What stands between two lines. -/
inductive LineEnd
  | lf
  | crlf
deriving DecidableEq

namespace LineEnd

/-- The byte before the newline, if there is one. -/
def carriageReturn : LineEnd → ByteString
  | lf => []
  | crlf => [13]

def bytes (lineEnd : LineEnd) : ByteString := lineEnd.carriageReturn ++ [newline]

end LineEnd

/-- A line of a text. -/
abbrev SdpLine := { line : ByteString // line ≠ [] ∧ 13 ∉ line ∧ newline ∉ line }

/-- The lines as one text, with a line end after the last line or without it. -/
def joinLines (lineEnd : LineEnd) (terminated : Bool) (lines : List SdpLine) : ByteString :=
  lineEnd.bytes.intercalate (lines.map Subtype.val) ++ if terminated then lineEnd.bytes else []

/-- The four texts give the same result. -/
def SameResult (env : SdpEnv) (lines : List SdpLine) : Prop :=
  ∀ (lineEnd lineEnd' : LineEnd) (terminated terminated' : Bool),
    parseRemoteSdp env (joinLines lineEnd terminated lines) =
      parseRemoteSdp env (joinLines lineEnd' terminated' lines)

/-! ## From the text to its lines

A line of a text is not empty and has neither of the two bytes in it, so that the text determines
its lines. There is a CRLF in the text if and only if it has a line end and the ends are CRLF. -/

/-- A line with what the loop gets of its line end. -/
def SdpLine.field (lineEnd : LineEnd) (line : SdpLine) : ByteString :=
  line.val ++ lineEnd.carriageReturn

theorem of_mem_fields {lineEnd : LineEnd} {lines : List SdpLine} {field : ByteString}
    (h : field ∈ lines.map (SdpLine.field lineEnd)) : field ≠ [] ∧ newline ∉ field := by
  obtain ⟨line, -, rfl⟩ := List.mem_map.mp h
  rw [SdpLine.field, List.mem_append, not_or]
  refine ⟨List.append_ne_nil_of_left_ne_nil line.2.1 _, line.2.2.2, ?_⟩
  cases lineEnd <;> decide

theorem tokenize_joinLines (lineEnd : LineEnd) (terminated : Bool) (lines : List SdpLine)
    (last : SdpLine) :
    tokenize newline (joinLines lineEnd terminated (lines ++ [last])) =
      lines.map (SdpLine.field lineEnd) ++
        [if terminated then last.field lineEnd else last.val] := by
  have hjoin : lineEnd.bytes.intercalate ((lines ++ [last]).map Subtype.val) =
      (lines.map (SdpLine.field lineEnd)).flatMap (· ++ [newline]) ++ last.val := by
    rw [List.map_append, List.map_singleton, intercalate_concat, List.flatMap_map, List.flatMap_map]
    simp only [LineEnd.bytes, SdpLine.field, List.append_assoc]
  rw [joinLines, hjoin, tokenize]
  cases terminated with
  | false =>
    rw [if_neg Bool.false_ne_true, if_neg Bool.false_ne_true, List.append_nil,
      split_newline_flatMap (fun _ hfield ↦ (of_mem_fields hfield).2) last.2.2.2]
    refine filter_ne_nil fun field hfield ↦ ?_
    rcases List.mem_append.mp hfield with hfield | hfield
    · exact (of_mem_fields hfield).1
    · rw [List.mem_singleton.mp hfield]
      exact last.2.1
  | true =>
    -- the text ends with a newline, and an empty piece after it
    have hlast : (lines.map (SdpLine.field lineEnd)).flatMap (· ++ [newline]) ++ last.val ++
        lineEnd.bytes = ((lines ++ [last]).map (SdpLine.field lineEnd)).flatMap (· ++ [newline]) ++
          [] := by
      simp [SdpLine.field, LineEnd.bytes]
    rw [if_pos rfl, if_pos rfl, hlast,
      split_newline_flatMap (fun _ hfield ↦ (of_mem_fields hfield).2) List.not_mem_nil,
      List.filter_append, filter_ne_nil fun _ hfield ↦ (of_mem_fields hfield).1, List.map_append]
    exact List.append_nil _

theorem contains_crlf_eq_false {text : ByteString} (h : 13 ∉ text) :
    text.contains [13, newline] = false := by
  refine decide_eq_false fun hinfix ↦ h ?_
  exact hinfix.subset List.mem_cons_self

theorem joinLines_eq (lineEnd : LineEnd) (terminated : Bool) (lines : List SdpLine)
    (last : SdpLine) :
    joinLines lineEnd terminated (lines ++ [last]) =
      (lines.map Subtype.val).flatMap (· ++ lineEnd.bytes) ++ last.val ++
        if terminated then lineEnd.bytes else [] := by
  rw [joinLines, List.map_append, List.map_singleton, intercalate_concat]

theorem carriageReturn_not_mem (terminated : Bool) (lines : List SdpLine) (last : SdpLine) :
    13 ∉ joinLines .lf terminated (lines ++ [last]) := by
  have hend : (13 : UInt8) ∉ LineEnd.lf.bytes := by decide
  rw [joinLines_eq, List.mem_append, List.mem_append, not_or, not_or]
  refine ⟨⟨?_, last.2.2.1⟩, ?_⟩
  · intro hmem
    obtain ⟨line, hline, hmem⟩ := List.mem_flatMap.mp hmem
    obtain ⟨line, -, rfl⟩ := List.mem_map.mp hline
    rcases List.mem_append.mp hmem with hmem | hmem
    · exact line.2.2.1 hmem
    · exact hend hmem
  · cases terminated with
    | false => exact List.not_mem_nil
    | true => exact hend

/-- A byte is cut from every line of a text with CRLF, also from a last line that does not have
one. -/
theorem sdpLines_of_crlf {terminated : Bool} {lines : List SdpLine} {last : SdpLine}
    (h : ByteString.contains (joinLines .crlf terminated (lines ++ [last])) [13, newline] = true) :
    sdpLines (joinLines .crlf terminated (lines ++ [last])) =
      lines.map Subtype.val ++ [if terminated then last.val else last.val.dropLast] := by
  have hfield (line : SdpLine) : (line.field .crlf).dropLast = line.val := List.dropLast_concat
  rw [sdpLines, if_pos h, tokenize_joinLines, List.map_append, List.map_map]
  refine congr (congrArg _ (List.map_congr_left fun line _ ↦ hfield line)) ?_
  cases terminated with
  | false => rfl
  | true => exact congrArg (· :: []) (hfield last)

/-- **What the loop gets from a text.** -/
theorem sdpLines_joinLines (lineEnd : LineEnd) (terminated : Bool) (lines : List SdpLine)
    (last : SdpLine) :
    sdpLines (joinLines lineEnd terminated (lines ++ [last])) =
      lines.map Subtype.val ++
        [if lineEnd = .crlf ∧ terminated = false ∧ lines ≠ [] then last.val.dropLast
          else last.val] := by
  cases lineEnd with
  | lf =>
    have hcontains := contains_crlf_eq_false (carriageReturn_not_mem terminated lines last)
    have hfield (line : SdpLine) : line.field .lf = line.val := List.append_nil _
    rw [sdpLines, hcontains, if_neg Bool.false_ne_true, tokenize_joinLines,
      List.map_congr_left fun line _ ↦ hfield line, hfield, ite_self, if_neg]
    intro hcut
    cases hcut.1
  | crlf =>
    cases terminated with
    | true =>
      rw [sdpLines_of_crlf, if_pos rfl, if_neg]
      · intro hcut
        cases hcut.2.1
      · exact decide_eq_true ⟨_, [], by rw [joinLines_eq, if_pos rfl, List.append_nil]; rfl⟩
    | false =>
      cases lines with
      | nil =>
        have htext : joinLines .crlf false ([] ++ [last]) = last.val := by
          rw [joinLines_eq]
          exact List.append_nil _
        have hcontains : ByteString.contains (joinLines .crlf false ([] ++ [last])) [13, newline] =
            false := by
          rw [htext]
          exact contains_crlf_eq_false last.2.2.1
        rw [sdpLines, hcontains, if_neg Bool.false_ne_true, tokenize_joinLines,
          if_neg Bool.false_ne_true, if_neg]
        · rfl
        · intro hcut
          exact hcut.2.2 rfl
      | cons line lines =>
        rw [sdpLines_of_crlf, if_neg Bool.false_ne_true, if_pos ⟨rfl, rfl, List.cons_ne_nil _ _⟩]
        refine decide_eq_true ⟨line.val, ?_, ?_⟩
        · exact (lines.map Subtype.val).flatMap (· ++ LineEnd.crlf.bytes) ++ last.val
        · rw [joinLines_eq, if_neg Bool.false_ne_true, List.append_nil, List.map_cons,
            List.flatMap_cons, List.append_assoc, List.append_assoc, List.append_assoc]
          rfl

/-! ## The last line -/

theorem parseRemoteSdp_joinLines (env : SdpEnv) (lineEnd : LineEnd) (terminated : Bool)
    (lines : List SdpLine) (last : SdpLine) :
    parseRemoteSdp env (joinLines lineEnd terminated (lines ++ [last])) =
      loopOutcome (SdpParser.parseLines env {}
        (sdpLines (joinLines lineEnd terminated (lines ++ [last])))) := by
  have hne : tokenize newline (joinLines lineEnd terminated (lines ++ [last])) ≠ [] := by
    rw [tokenize_joinLines]
    exact List.concat_ne_nil _ _
  rw [parseRemoteSdp_eq_loopOutcome, if_neg hne]

/-- Only the last line can make a difference. -/
theorem sameResult_iff_last (env : SdpEnv) (lines : List SdpLine) (last : SdpLine) :
    SameResult env (lines ++ [last]) ↔
      lines = [] ∨
        loopOutcome (SdpParser.parseLines env {} (lines.map Subtype.val ++ [last.val])) =
          loopOutcome
            (SdpParser.parseLines env {} (lines.map Subtype.val ++ [last.val.dropLast])) := by
  constructor
  · intro h
    by_cases hnil : lines = []
    · exact .inl hnil
    · have h := h .lf .crlf false false
      have hlf : ¬(LineEnd.lf = .crlf ∧ false = false ∧ lines ≠ []) := by
        intro hcut
        cases hcut.1
      rw [parseRemoteSdp_joinLines, parseRemoteSdp_joinLines, sdpLines_joinLines,
        sdpLines_joinLines, if_neg hlf, if_pos ⟨rfl, rfl, hnil⟩] at h
      exact .inr h
  · intro h lineEnd lineEnd' terminated terminated'
    have hsame (lineEnd : LineEnd) (terminated : Bool) :
        parseRemoteSdp env (joinLines lineEnd terminated (lines ++ [last])) =
          loopOutcome (SdpParser.parseLines env {} (lines.map Subtype.val ++ [last.val])) := by
      rw [parseRemoteSdp_joinLines, sdpLines_joinLines]
      split
      · next hcut => exact (h.resolve_left hcut.2.2).symm
      · rfl
    exact (hsame lineEnd terminated).trans (hsame lineEnd' terminated').symm

/-! ## Lines that are read alike without their last byte

Cutting a byte can make a keyword disappear, but never appear, so it is enough to know that the
whole line has none. The other cases go through the functions of the parser one by one. -/

section Cut

variable {env : SdpEnv} {mediaType line q : ByteString} {d : UInt8} {s a b : ByteString}

theorem contains_of_dropLast (h : ByteString.contains line.dropLast q = true) :
    line.contains q = true :=
  decide_eq_true ((of_decide_eq_true h).trans (List.dropLast_prefix line).isInfix)

theorem contains_dropLast (h : line.contains q = false) :
    ByteString.contains line.dropLast q = false := by
  rw [Bool.eq_false_iff] at h ⊢
  exact fun hcut ↦ h (contains_of_dropLast hcut)

theorem exists_of_tokenizeFirst (h : tokenizeFirst d s = some (a, b)) :
    ∃ n, s = a ++ (List.replicate (n + 1) d ++ b) ∧ d ∉ a ∧ b.head? ≠ some d := by
  by_cases hmem : d ∈ s
  · obtain ⟨a', r, rfl, ha⟩ := List.eq_append_cons_of_mem hmem
    have hall : ∀ c ∈ a', decide (c ≠ d) = true :=
      fun c hc ↦ decide_eq_true fun heq ↦ ha (heq ▸ hc)
    rw [tokenizeFirst, if_pos hmem, List.takeWhile_append_of_pos hall,
      List.dropWhile_append_of_pos hall, List.takeWhile_cons_of_neg (by simp),
      List.dropWhile_cons_of_neg (by simp), List.dropWhile_cons_of_pos (by simp),
      List.append_nil] at h
    obtain ⟨rfl, rfl⟩ := Prod.mk.inj (Option.some.inj h)
    have hrun : r.takeWhile (fun c ↦ decide (c = d)) =
        List.replicate (r.takeWhile fun c ↦ decide (c = d)).length d :=
      List.eq_replicate_of_mem fun c hc ↦
        by simpa using List.mem_takeWhile_imp hc
    refine ⟨(r.takeWhile fun c ↦ decide (c = d)).length, ?_, ha, ?_⟩
    · rw [List.replicate_succ, ← hrun, List.cons_append, List.takeWhile_append_dropWhile]
    · intro hhead
      have hnot := List.head?_dropWhile_not (fun c ↦ decide (c = d)) r
      rw [hhead] at hnot
      simp at hnot
  · rw [tokenizeFirst, if_neg hmem] at h
    cases h

/-- The last byte belongs to the second part, if there is one. -/
theorem tokenizeFirst_dropLast (h : tokenizeFirst d s = some (a, b)) (hb : b ≠ []) :
    tokenizeFirst d s.dropLast = some (a, b.dropLast) := by
  obtain ⟨n, rfl, ha, hhead⟩ := exists_of_tokenizeFirst h
  have hcut : (a ++ (List.replicate (n + 1) d ++ b)).dropLast =
      a ++ (List.replicate (n + 1) d ++ b.dropLast) := by
    rw [List.dropLast_append_of_ne_nil (List.append_ne_nil_of_right_ne_nil _ hb),
      List.dropLast_append_of_ne_nil hb]
  rw [hcut]
  refine tokenizeFirst_append n ha ?_
  obtain ⟨c, b, rfl⟩ := List.exists_cons_of_ne_nil hb
  cases b with
  | nil =>
    intro hnone
    cases hnone
  | cons c' b => exact hhead

theorem split_append {item next : ByteString} {items : List ByteString} (t : ByteString)
    (h : split d s = item :: next :: items) :
    ∃ rest, split d rest = next :: items ∧ split d (s ++ t) = item :: split d (rest ++ t) := by
  by_cases hmem : d ∈ s
  · obtain ⟨a, rest, rfl, ha⟩ := List.eq_append_cons_of_mem hmem
    rw [split, List.splitOn_append_cons_self_of_not_mem ha] at h
    obtain ⟨rfl, hrest⟩ := List.cons.inj h
    refine ⟨rest, hrest, ?_⟩
    rw [List.append_assoc, List.cons_append]
    exact List.splitOn_append_cons_self_of_not_mem ha _
  · rw [split, List.splitOn_eq_singleton hmem] at h
    cases h

/-- None of the keywords of the section is in the line. -/
def SectionSkips (mediaType line : ByteString) : Prop :=
  IsSection mediaType →
    line.contains (lit "a=ice-ufrag") = false ∧ line.contains (lit "a=ice-pwd") = false ∧
      line.contains (lit "a=fingerprint") = false ∧ line.contains (lit "a=ssrc:") = false ∧
      (mediaType = lit "video" → line.contains (lit "a=ssrc-group:") = false)

/-- A source line with a value of an attribute that is not kept. -/
def IgnoredSource (line : ByteString) : Prop :=
  lit "a=ssrc:" <+: line ∧
    ∃ field1 field2 attr value, tokenizeFirst space (line.drop 2) = some (field1, field2) ∧
      tokenizeFirst colon field2 = some (attr, value) ∧ attr ≠ lit "cname" ∧ attr ≠ lit "msid" ∧
      value ≠ []

/-- Nothing that is read from the line depends on its last byte. -/
inductive EndUnread (mediaType line : ByteString) : Prop
  /-- The line has none of the keywords. -/
  | skipped (hmedia : line.contains (lit "m=") = false) (hsection : SectionSkips mediaType line)
  /-- An `m=` line that has its three items without the last byte. -/
  | media (hgroup : line.contains (lit "m=group:BUNDLE") = false)
      (hmedia : ByteString.contains line.dropLast (lit "m=") = true)
      (hitems : 2 < (split space line.dropLast).length)
      (hsection : SectionSkips (mediaTypeOf line) line)
  | ignored (hsource : IgnoredSource line) (hmedia : line.contains (lit "m=") = false)
      (hufrag : line.contains (lit "a=ice-ufrag") = false)
      (hpwd : line.contains (lit "a=ice-pwd") = false)
      (hfp : line.contains (lit "a=fingerprint") = false)
      (hgroup : line.contains (lit "a=ssrc-group:") = false)

theorem SectionSkips.dropLast (h : SectionSkips mediaType line) :
    SectionSkips mediaType line.dropLast := by
  intro hsection
  obtain ⟨hufrag, hpwd, hfp, hssrc, hgroup⟩ := h hsection
  exact ⟨contains_dropLast hufrag, contains_dropLast hpwd, contains_dropLast hfp,
    contains_dropLast hssrc, fun hvideo ↦ contains_dropLast (hgroup hvideo)⟩

theorem parseSection_skip {st : SdpParser} (h : SectionSkips st.mediaType line) :
    st.parseSection env line = .ok st := by
  rw [SdpParser.parseSection]
  split
  · next haudio =>
    obtain ⟨hufrag, hpwd, hfp, hssrc, -⟩ := h (.inl haudio)
    rw [parseTransportInfo_skip hufrag hpwd hfp, parseSsrcInfo_skip hssrc]
    rfl
  · split
    · next hvideo =>
      obtain ⟨hufrag, hpwd, hfp, hssrc, hgroup⟩ := h (.inr hvideo)
      rw [parseTransportInfo_skip hufrag hpwd hfp, parseSsrcInfo_skip hssrc,
        parseSsrcGroupInfo_skip (hgroup hvideo)]
      rfl
    · rfl

theorem parseMedia_dropLast (st : SdpParser)
    (hgroup : line.contains (lit "m=group:BUNDLE") = false)
    (hmedia : ByteString.contains line.dropLast (lit "m=") = true)
    (hitems : 2 < (split space line.dropLast).length) :
    st.parseMedia line.dropLast = st.parseMedia line := by
  have hmedia' := contains_of_dropLast hmedia
  have hne : line ≠ [] := by
    rintro rfl
    exact absurd hmedia' (by decide)
  -- the first two items have the byte after them
  rcases hcut : split space line.dropLast with _ | ⟨item, _ | ⟨a, _ | ⟨b, items⟩⟩⟩
  · rw [hcut] at hitems
    exact absurd hitems (by decide)
  · rw [hcut] at hitems
    exact absurd hitems (by simp)
  · rw [hcut] at hitems
    exact absurd hitems (by simp)
  · obtain ⟨rest, hrest, hline⟩ := split_append [line.getLast hne] hcut
    obtain ⟨rest, -, hrest⟩ := split_append [line.getLast hne] hrest
    obtain ⟨c, items', hlast⟩ :=
      List.exists_cons_of_ne_nil (split_ne_nil space (rest ++ [line.getLast hne]))
    rw [List.dropLast_append_getLast hne, hrest, hlast] at hline
    rw [SdpParser.parseMedia, contains_dropLast hgroup, if_neg Bool.false_ne_true, if_pos hmedia,
      SdpParser.parseMedia, hgroup, if_neg Bool.false_ne_true, if_pos hmedia', hcut, hline]

theorem parseSsrcInfo_dropLast (infos : List SsrcInfo) (h : IgnoredSource line) :
    parseSsrcInfo env infos line.dropLast = parseSsrcInfo env infos line := by
  obtain ⟨⟨rest, rfl⟩, field1, field2, attr, value, hfields, hattr, hcname, hmsid, hvalue⟩ := h
  have hrest : rest ≠ [] := by
    rintro rfl
    have hnone : tokenizeFirst space ((lit "a=ssrc:" ++ []).drop 2) = none := by decide
    rw [hnone] at hfields
    cases hfields
  have hfield2 : field2 ≠ [] := by
    rintro rfl
    cases hattr
  have hcut : (lit "a=ssrc:" ++ rest).dropLast = lit "a=ssrc:" ++ rest.dropLast :=
    List.dropLast_append_of_ne_nil hrest
  have hcut' : (lit "ssrc:" ++ rest).dropLast = lit "ssrc:" ++ rest.dropLast :=
    List.dropLast_append_of_ne_nil hrest
  have hdrop : (lit "a=ssrc:" ++ rest.dropLast).drop 2 =
      ((lit "a=ssrc:" ++ rest).drop 2).dropLast :=
    hcut'.symm
  have hfields' := tokenizeFirst_dropLast hfields hfield2
  have hattr' := tokenizeFirst_dropLast hattr hvalue
  have hfound (rest : ByteString) :
      ByteString.contains (lit "a=ssrc:" ++ rest) (lit "a=ssrc:") = true :=
    decide_eq_true (List.prefix_append _ _).isInfix
  have hle (rest : ByteString) : 2 ≤ (lit "a=ssrc:" ++ rest).length := by
    rw [List.length_append]
    exact Nat.le_add_right_of_le (by decide)
  rw [hcut, parseSsrcInfo, if_pos (hfound _), substrOrThrow_of_le (hle _), ok_bind, hdrop, hfields',
    parseSsrcInfo, if_pos (hfound _), substrOrThrow_of_le (hle _), ok_bind, hfields]
  dsimp only
  rw [hattr, hattr']
  simp only [if_neg hcname, if_neg hmsid]

/-- **A line that does not end in something that is read.** -/
theorem parseLine_dropLast {st : SdpParser} (h : EndUnread st.mediaType line) :
    st.parseLine env line.dropLast = st.parseLine env line := by
  cases h with
  | skipped hmedia hsection =>
    rw [SdpParser.parseLine, SdpParser.parseLine, SdpParser.parseMedia_of_not_contains hmedia,
      SdpParser.parseMedia_of_not_contains (contains_dropLast hmedia)]
    dsimp only
    rw [parseSection_skip hsection, parseSection_skip hsection.dropLast]
  | media hgroup hmedia hitems hsection =>
    rw [SdpParser.parseLine, SdpParser.parseLine, parseMedia_dropLast st hgroup hmedia hitems]
    cases hparse : st.parseMedia line with
    | error e => rfl
    | ok st' =>
      have hline : IsMediaLine line := ⟨hgroup, contains_of_dropLast hmedia⟩
      have hafter := mediaType_of_parseMedia hparse
      rw [mediaTypeAfter, if_pos hline] at hafter
      rw [← hafter] at hsection
      dsimp only
      rw [parseSection_skip hsection, parseSection_skip hsection.dropLast]
  | ignored hsource hmedia hufrag hpwd hfp hgroup =>
    have hsection : st.parseSection env line.dropLast = st.parseSection env line := by
      rw [SdpParser.parseSection, SdpParser.parseSection,
        parseTransportInfo_skip hufrag hpwd hfp,
        parseTransportInfo_skip (contains_dropLast hufrag) (contains_dropLast hpwd)
          (contains_dropLast hfp),
        parseTransportInfo_skip hufrag hpwd hfp,
        parseTransportInfo_skip (contains_dropLast hufrag) (contains_dropLast hpwd)
          (contains_dropLast hfp), parseSsrcGroupInfo_skip hgroup,
        parseSsrcGroupInfo_skip (contains_dropLast hgroup), parseSsrcInfo_dropLast _ hsource,
        parseSsrcInfo_dropLast _ hsource]
    rw [SdpParser.parseLine, SdpParser.parseLine, SdpParser.parseMedia_of_not_contains hmedia,
      SdpParser.parseMedia_of_not_contains (contains_dropLast hmedia)]
    dsimp only
    rw [hsection]

/-- A line of these is rejected, or makes the loop throw. -/
def LoopEnds (env : SdpEnv) : ByteString → List ByteString → Prop
  | _, [] => False
  | mediaType, line :: lines => LineRejects env mediaType line ∨ LineCuts env mediaType line ∨
      LoopEnds env (mediaTypeAfter mediaType line) lines

theorem parseLines_ended {lines : List ByteString} {st : SdpParser}
    (h : LoopEnds env st.mediaType lines) : (st.parseLines env lines).2 ≠ none := by
  induction lines generalizing st with
  | nil => exact h.elim
  | cons line lines ih =>
    rw [SdpParser.parseLines]
    rcases hline : st.parseLine env line with ⟨st', _ | e⟩
    · have hnone : (st.parseLine env line).2 = none := congrArg Prod.snd hline
      rcases h with hrejects | hcuts | hrest
      · rw [parseLine_eq_reject.mpr hrejects] at hnone
        cases hnone
      · rw [parseLine_eq_outOfRange.mpr hcuts] at hnone
        cases hnone
      · rw [← mediaType_of_parseLine hline] at hrest
        exact ih hrest
    · exact Option.some_ne_none e

theorem parseLines_concat {lines : List ByteString} {st : SdpParser} {line' : ByteString}
    (h : ∀ st', st.parseLines env lines = (st', none) →
      st'.parseLine env line' = st'.parseLine env line) :
    st.parseLines env (lines ++ [line']) = st.parseLines env (lines ++ [line]) := by
  rw [SdpParser.parseLines_append, SdpParser.parseLines_append]
  rcases hbefore : st.parseLines env lines with ⟨st', _ | e⟩
  · dsimp only
    rw [SdpParser.parseLines, SdpParser.parseLines, h st' hbefore]
  · rfl

theorem mediaType_of_parseLines {lines : List ByteString} {st st' : SdpParser}
    (h : st.parseLines env lines = (st', none)) :
    st'.mediaType = lines.foldl mediaTypeAfter st.mediaType := by
  induction lines generalizing st with
  | nil =>
    obtain ⟨rfl, -⟩ := Prod.mk.inj h
    rfl
  | cons line lines ih =>
    rw [SdpParser.parseLines] at h
    rcases hline : st.parseLine env line with ⟨st₁, _ | e⟩ <;> rw [hline] at h
    · rw [List.foldl_cons, ← mediaType_of_parseLine hline]
      exact ih h
    · cases (Prod.mk.inj h).2

end Cut

/-- The four texts give the same result when there is one line, or a line before the last ends the
loop, or nothing that is read from the last line depends on its last byte. -/
theorem sameResult_of_endUnread (env : SdpEnv) (lines : List SdpLine) (last : SdpLine)
    (h : lines = [] ∨ LoopEnds env [] (lines.map Subtype.val) ∨
      EndUnread ((lines.map Subtype.val).foldl mediaTypeAfter []) last.val) :
    SameResult env (lines ++ [last]) := by
  rw [sameResult_iff_last]
  rcases h with hnil | hends | hunread
  · exact .inl hnil
  · refine .inr (congrArg loopOutcome (parseLines_concat ?_).symm)
    intro st hbefore
    exact absurd (congrArg Prod.snd hbefore) (parseLines_ended hends)
  · refine .inr (congrArg loopOutcome (parseLines_concat ?_).symm)
    intro st hbefore
    have hmediaType : st.mediaType = _ := mediaType_of_parseLines hbefore
    refine parseLine_dropLast ?_
    rw [hmediaType]
    exact hunread

/-- A section whose last line is a label. -/
theorem sameResult_label :
    SameResult numberEnv
      [⟨lit "m=audio 9 RTP", by decide⟩, ⟨lit "a=ssrc:1 label:ab", by decide⟩] := by
  refine sameResult_of_endUnread numberEnv [⟨lit "m=audio 9 RTP", by decide⟩]
    ⟨lit "a=ssrc:1 label:ab", by decide⟩ (.inr (.inr ?_))
  refine .ignored ⟨by decide, lit "ssrc:1", lit "label:ab", lit "label", lit "ab", ?_⟩ (by decide)
    (by decide) (by decide) (by decide) (by decide)
  decide

/-- The last byte of a user fragment is lost. -/
theorem not_sameResult :
    ¬∀ (env : SdpEnv) (lines : List SdpLine), lines ≠ [] → SameResult env lines := by
  intro h
  have h := h numberEnv
    [⟨lit "m=audio 9 RTP", by decide⟩, ⟨lit "a=ice-ufrag:abcd", by decide⟩] (by decide) .lf .crlf
    false false
  revert h
  decide

end XrtcServer
