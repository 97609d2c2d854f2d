import XrtcServer.Pc.AnswerFingerprint
import XrtcServer.Pc.SdpText

/-!
# What a section takes from a line

`to_string` and `set_remote_sdp` are two ends of one format, and this file reads the lines of the
one with the other.

## Where a keyword can stand

The parser looks for its keywords anywhere in a line. Each of them has an equals sign as its second
byte, and in a line whose strings have no equals sign it stands second and nowhere else, except in
the lines with the codec parameters, which are constants. So a keyword can only be found at the
start of a line, and every line is read as what it was written as. Without this condition on the
strings a line could be read as two things at once.

## One round of the loop

`takeLine` is a round of the loop as one section sees it, and `Takes` runs it over some lines. There
is one lemma for each kind of line that a section takes something from; the others are `Inert`.
`Takes.append` puts the pieces of a section together in the order in which they are written, and
`parseLines_of_takes` goes back from the section to the parser, whose other variables stay as they
are.
-/

namespace XrtcServer

open ByteString

def equalsSign : UInt8 := 61

/-! ## From the text to its lines

The writer ends each line with CRLF. A text with a CRLF is split at LF, and the last byte of every
piece is dropped, so writer and parser see the same lines as long as no line has an LF in it. -/

theorem intercalate_concat (sep : ByteString) (pieces : List ByteString) (last : ByteString) :
    sep.intercalate (pieces ++ [last]) = pieces.flatMap (· ++ sep) ++ last := by
  induction pieces with
  | nil => exact List.intercalate_singleton
  | cons piece pieces ih =>
    rw [List.cons_append, List.intercalate_cons_of_ne_nil (List.concat_ne_nil _ _), ih,
      List.flatMap_cons, List.append_assoc, List.append_assoc, List.append_assoc]

theorem split_newline_flatMap {pieces : List ByteString} {last : ByteString}
    (h : ∀ piece ∈ pieces, newline ∉ piece) (hlast : newline ∉ last) :
    split newline (pieces.flatMap (· ++ [newline]) ++ last) = pieces ++ [last] := by
  rw [← intercalate_concat, split]
  refine List.splitOn_intercalate newline ?_ (List.concat_ne_nil _ _)
  intro piece hpiece
  rcases List.mem_append.mp hpiece with hpiece | hpiece
  · exact h piece hpiece
  · rw [List.mem_singleton.mp hpiece]
    exact hlast

theorem filter_ne_nil {pieces : List ByteString} (h : ∀ piece ∈ pieces, piece ≠ []) :
    pieces.filter (fun piece ↦ !piece.isEmpty) = pieces := by
  refine List.filter_eq_self.mpr fun piece hpiece ↦ ?_
  rw [Bool.not_eq_true', List.isEmpty_eq_false_iff]
  exact h piece hpiece

theorem split_newline_lines {lines : List ByteString} (h : ∀ line ∈ lines, newline ∉ line) :
    split newline (lines.flatMap fun line ↦ line ++ lit "\r\n") =
      lines.map (· ++ [13]) ++ [[]] := by
  have hpieces : ∀ piece ∈ lines.map (· ++ [13]), newline ∉ piece := by
    intro piece hpiece
    obtain ⟨line, hline, rfl⟩ := List.mem_map.mp hpiece
    rw [List.mem_append, not_or]
    exact ⟨h line hline, by decide⟩
  have htext : lines.flatMap (fun line ↦ line ++ lit "\r\n") =
      (lines.map (· ++ [13])).flatMap (· ++ [newline]) ++ [] := by
    rw [List.append_nil, List.flatMap_map]
    refine List.flatMap_congr fun line _ ↦ ?_
    exact (List.append_assoc line [13] [newline]).symm
  rw [htext]
  exact split_newline_flatMap hpieces List.not_mem_nil

theorem tokenize_newline_lines {lines : List ByteString} (h : ∀ line ∈ lines, newline ∉ line) :
    tokenize newline (lines.flatMap fun line ↦ line ++ lit "\r\n") = lines.map (· ++ [13]) := by
  have hkeep : ∀ piece ∈ lines.map (· ++ [13]), piece ≠ [] := by
    intro piece hpiece
    obtain ⟨line, -, rfl⟩ := List.mem_map.mp hpiece
    exact List.concat_ne_nil _ _
  rw [tokenize, split_newline_lines h, List.filter_append, filter_ne_nil hkeep]
  exact List.append_nil _

/-- **The parser sees the lines that were written.** -/
theorem sdpLines_lines {lines : List ByteString} (hne : lines ≠ [])
    (h : ∀ line ∈ lines, newline ∉ line) :
    sdpLines (lines.flatMap fun line ↦ line ++ lit "\r\n") = lines := by
  obtain ⟨line, rest, rfl⟩ := List.exists_cons_of_ne_nil hne
  have hcrlf : ByteString.contains ((line :: rest).flatMap fun line ↦ line ++ lit "\r\n")
      [13, newline] = true := by
    refine decide_eq_true ⟨line, rest.flatMap fun line ↦ line ++ lit "\r\n", ?_⟩
    rw [List.flatMap_cons]
    rfl
  rw [sdpLines.eq_def, if_pos hcrlf, tokenize_newline_lines h, List.map_map]
  refine (List.map_congr_left fun l _ ↦ ?_).trans (List.map_id _)
  exact List.dropLast_concat

/-! ## Keywords -/

/-- Two texts that start in the same way agree as far as both go. -/
theorem take_eq_take_of_isPrefixOf {q name value : ByteString} (h : q <+: name ++ value) :
    q.take name.length = name.take q.length := by
  obtain ⟨t, ht⟩ := h
  have htake := congrArg (List.take (min q.length name.length)) ht
  rw [List.take_append_of_le_length (min_le_left ..), List.take_append_of_le_length
    (min_le_right ..)] at htake
  calc q.take name.length = q.take (min q.length name.length) := by
        rw [min_comm, ← List.take_eq_take_min]
    _ = name.take (min q.length name.length) := htake
    _ = name.take q.length := by rw [← List.take_eq_take_min]

/-- In an attribute line, which has its only equals sign in the second place, a keyword stands at
the start. -/
theorem contains_attribute {b : UInt8} {q rest : ByteString} (h : equalsSign ∉ rest) :
    contains (lit "a=" ++ rest) (b :: equalsSign :: q) = true ↔ b = 97 ∧ q <+: rest := by
  have hrest : ¬b :: equalsSign :: q <:+: rest :=
    fun hin ↦ h (hin.subset (List.mem_cons_of_mem _ List.mem_cons_self))
  have hline : lit "a=" ++ rest = 97 :: equalsSign :: rest := rfl
  rw [contains, decide_eq_true_iff, hline, List.infix_cons_iff, List.infix_cons_iff]
  constructor
  · rintro (hp | hp | hp)
    · rw [List.cons_prefix_cons, List.cons_prefix_cons] at hp
      exact ⟨hp.1, hp.2.2⟩
    · rw [List.cons_prefix_cons] at hp
      exact absurd (hp.2.subset List.mem_cons_self) h
    · exact absurd hp hrest
  · rintro ⟨rfl, hq⟩
    exact .inl (List.cons_prefix_cons.mpr ⟨rfl, List.cons_prefix_cons.mpr ⟨rfl, hq⟩⟩)

/-- A keyword that is not the name of the attribute is not found. -/
theorem contains_attribute_eq_false {b : UInt8} {q name value : ByteString}
    (h : equalsSign ∉ name ++ value) (hne : b ≠ 97 ∨ q.take name.length ≠ name.take q.length) :
    contains (lit "a=" ++ (name ++ value)) (b :: equalsSign :: q) = false := by
  rw [← Bool.not_eq_true, contains_attribute h]
  rintro ⟨hb, hq⟩
  exact hne.elim (· hb) (· (take_eq_take_of_isPrefixOf hq))

theorem contains_attribute_eq_true {q value : ByteString} (h : equalsSign ∉ q ++ value) :
    contains (lit "a=" ++ (q ++ value)) (97 :: equalsSign :: q) = true :=
  (contains_attribute h).mpr ⟨rfl, List.prefix_append ..⟩

/-! ## A section

A section keeps its own description of the transport and its own list of sources, under the names
`audio` and `video`; the groups are for video only. `SectionState` are the variables of one of the
two, and no line inside a section touches those of the other. -/

/-- What the parser collects in a section. -/
structure SectionState where
  td : TransportDescription
  infos : List SsrcInfo := []
  groups : List SsrcGroup := []

/-- Only a video section reads the groups of sources. -/
def takeGroups (env : SdpEnv) (type : MediaType) (groups : List SsrcGroup) (line : ByteString) :
    Except SdpError (List SsrcGroup) :=
  if type = .video then parseSsrcGroupInfo env groups line else .ok groups

/-- What a section takes from a line. -/
def takeLine (env : SdpEnv) (type : MediaType) (x : SectionState) (line : ByteString) :
    Except SdpError SectionState := do
  let td ← parseTransportInfo env x.td line
  let groups ← takeGroups env type x.groups line
  let infos ← parseSsrcInfo env x.infos line
  return { td, infos, groups }

/-- The section takes these lines and comes to the second state. -/
def Takes (env : SdpEnv) (type : MediaType) (x : SectionState) (lines : List ByteString)
    (x' : SectionState) : Prop := lines.foldlM (takeLine env type) x = .ok x'

namespace SdpParser

/-- The variables of a section. -/
def sectionState (st : SdpParser) : MediaType → SectionState
  | .audio => { td := st.audioTd, infos := st.audioSsrcInfo, groups := st.videoSsrcGroups }
  | .video => { td := st.videoTd, infos := st.videoSsrcInfo, groups := st.videoSsrcGroups }

def setSection (st : SdpParser) : MediaType → SectionState → SdpParser
  | .audio, x =>
    { st with audioTd := x.td, audioSsrcInfo := x.infos, videoSsrcGroups := x.groups }
  | .video, x =>
    { st with videoTd := x.td, videoSsrcInfo := x.infos, videoSsrcGroups := x.groups }

variable {env : SdpEnv} {st : SdpParser} {type : MediaType} {line : ByteString}
  {lines : List ByteString} {x x' : SectionState}

@[simp] theorem sectionState_setSection (st : SdpParser) (type : MediaType) (x : SectionState) :
    (st.setSection type x).sectionState type = x := by
  cases type <;> rfl

@[simp] theorem setSection_setSection (st : SdpParser) (type : MediaType) (x x' : SectionState) :
    (st.setSection type x).setSection type x' = st.setSection type x' := by
  cases type <;> rfl

@[simp] theorem setSection_sectionState (st : SdpParser) (type : MediaType) :
    st.setSection type (st.sectionState type) = st := by
  cases type <;> rfl

theorem mediaType_setSection (st : SdpParser) (type : MediaType) (x : SectionState) :
    (st.setSection type x).mediaType = st.mediaType := by
  cases type <;> rfl

theorem not_bundle_of_not_media (h : line.contains (lit "m=") = false) :
    line.contains (lit "m=group:BUNDLE") = false := by
  rw [← Bool.not_eq_true] at h ⊢
  intro hin
  exact h (decide_eq_true ((show lit "m=" <:+: lit "m=group:BUNDLE" from ⟨[], _, rfl⟩).trans
    (of_decide_eq_true hin)))

theorem parseMedia_of_not_contains (h : line.contains (lit "m=") = false) :
    st.parseMedia line = .ok st := by
  rw [parseMedia, not_bundle_of_not_media h, h]
  rfl

theorem parseSection_of_takeLine (hst : st.mediaType = type.mid)
    (h : takeLine env type (st.sectionState type) line = .ok x') :
    st.parseSection env line = .ok (st.setSection type x') := by
  obtain ⟨td, htd, h⟩ := bind_eq_ok.mp h
  obtain ⟨groups, hgroups, h⟩ := bind_eq_ok.mp h
  obtain ⟨infos, hinfos, h⟩ := bind_eq_ok.mp h
  obtain rfl := Except.ok.inj h
  cases type with
  | audio =>
    obtain rfl := Except.ok.inj hgroups
    rw [parseSection, if_pos (show st.mediaType = lit "audio" from hst)]
    exact bind_eq_ok.mpr ⟨td, htd, bind_eq_ok.mpr ⟨infos, hinfos, rfl⟩⟩
  | video =>
    have hne : st.mediaType ≠ lit "audio" := by
      rw [hst]
      decide
    rw [parseSection, if_neg hne, if_pos (show st.mediaType = lit "video" from hst)]
    exact bind_eq_ok.mpr ⟨td, htd, bind_eq_ok.mpr ⟨groups, hgroups,
      bind_eq_ok.mpr ⟨infos, hinfos, rfl⟩⟩⟩

/-- **The lines of a section.** -/
theorem parseLines_of_takes (hst : st.mediaType = type.mid)
    (hmedia : ∀ line ∈ lines, line.contains (lit "m=") = false)
    (h : Takes env type (st.sectionState type) lines x') :
    st.parseLines env lines = (st.setSection type x', none) := by
  induction lines generalizing st with
  | nil =>
    obtain rfl := Except.ok.inj h
    rw [setSection_sectionState]
    rfl
  | cons line lines ih =>
    obtain ⟨x, hline, hlines⟩ := bind_eq_ok.mp h
    have hparse : st.parseLine env line = (st.setSection type x, none) := by
      rw [parseLine, parseMedia_of_not_contains (hmedia line List.mem_cons_self)]
      dsimp only
      rw [parseSection_of_takeLine hst hline]
    rw [parseLines, hparse]
    dsimp only
    rw [ih ((mediaType_setSection ..).trans hst)
      (fun l hl ↦ hmedia l (List.mem_cons_of_mem _ hl)), setSection_setSection]
    rwa [sectionState_setSection]

end SdpParser

/-! ## What a section takes from a line

A keyword that is not there makes its parser return at once with nothing changed. So for a line
that has one keyword only the parser of that keyword remains, and its pieces are found with the
delimiters that the writer has put there, none of which occurs in a token. -/

section Lines

variable {env : SdpEnv} {type : MediaType} {x y z : SectionState} {line name value : ByteString}
  {lines lines' : List ByteString} {td : TransportDescription} {infos : List SsrcInfo}
  {groups : List SsrcGroup}

theorem Takes.nil : Takes env type x [] x := rfl

theorem Takes.append (h : Takes env type x lines y) (h' : Takes env type y lines' z) :
    Takes env type x (lines ++ lines') z := by
  rw [Takes, List.foldlM_append]
  exact bind_eq_ok.mpr ⟨y, h, h'⟩

theorem Takes.cons (h : takeLine env type x line = .ok y) (h' : Takes env type y lines z) :
    Takes env type x (line :: lines) z := bind_eq_ok.mpr ⟨y, h, h'⟩

theorem takeLine_eq (htd : parseTransportInfo env x.td line = .ok td)
    (hgroups : takeGroups env type x.groups line = .ok groups)
    (hinfos : parseSsrcInfo env x.infos line = .ok infos) :
    takeLine env type x line = .ok { td, infos, groups } := by
  rw [takeLine, htd, ok_bind, hgroups, ok_bind, hinfos, ok_bind]
  rfl

theorem parseTransportInfo_skip (hufrag : line.contains (lit "a=ice-ufrag") = false)
    (hpwd : line.contains (lit "a=ice-pwd") = false)
    (hfp : line.contains (lit "a=fingerprint") = false) :
    parseTransportInfo env td line = .ok td := by
  rw [parseTransportInfo, hufrag, hpwd, hfp]
  rfl

theorem parseSsrcGroupInfo_skip (h : line.contains (lit "a=ssrc-group:") = false) :
    parseSsrcGroupInfo env groups line = .ok groups := by
  rw [parseSsrcGroupInfo, h]
  rfl

theorem takeGroups_skip (h : line.contains (lit "a=ssrc-group:") = false) :
    takeGroups env type groups line = .ok groups := by
  rw [takeGroups, parseSsrcGroupInfo_skip h]
  exact ite_self _

theorem parseSsrcInfo_skip (h : line.contains (lit "a=ssrc:") = false) :
    parseSsrcInfo env infos line = .ok infos := by
  rw [parseSsrcInfo, h]
  rfl

/-- The keywords of a section, and `m=`. -/
def keywords : List ByteString :=
  [lit "m=", lit "a=ice-ufrag", lit "a=ice-pwd", lit "a=fingerprint", lit "a=ssrc-group:",
    lit "a=ssrc:"]

/-- A line without a keyword. -/
def Inert (line : ByteString) : Prop := ∀ q ∈ keywords, line.contains q = false

instance (line : ByteString) : Decidable (Inert line) :=
  inferInstanceAs (Decidable (∀ q ∈ keywords, line.contains q = false))

theorem takeLine_inert (h : Inert line) : takeLine env type x line = .ok x :=
  takeLine_eq (parseTransportInfo_skip (h _ (by decide)) (h _ (by decide)) (h _ (by decide)))
    (takeGroups_skip (h _ (by decide))) (parseSsrcInfo_skip (h _ (by decide)))

theorem Takes.inert (h : ∀ line ∈ lines, Inert line) : Takes env type x lines x := by
  induction lines with
  | nil => exact .nil
  | cons line lines ih =>
    exact .cons (takeLine_inert (h line List.mem_cons_self))
      (ih fun l hl ↦ h l (List.mem_cons_of_mem _ hl))

/-- The name of an attribute is not the start of a keyword, nor the other way round. -/
def Apart (name q : ByteString) : Prop := q.take name.length ≠ name.take q.length

instance (name q : ByteString) : Decidable (Apart name q) := inferInstanceAs (Decidable (_ ≠ _))

theorem contains_media (h : equalsSign ∉ name ++ value) :
    contains (lit "a=" ++ (name ++ value)) (lit "m=") = false :=
  contains_attribute_eq_false (b := 109) (q := []) h (.inl (by decide))

theorem inert_attribute (h : equalsSign ∉ name ++ value) (hufrag : Apart name (lit "ice-ufrag"))
    (hpwd : Apart name (lit "ice-pwd")) (hfp : Apart name (lit "fingerprint"))
    (hgroup : Apart name (lit "ssrc-group:")) (hssrc : Apart name (lit "ssrc:")) :
    Inert (lit "a=" ++ (name ++ value)) := by
  intro q hq
  simp only [keywords, List.mem_cons, List.not_mem_nil, or_false] at hq
  rcases hq with rfl | rfl | rfl | rfl | rfl | rfl
  · exact contains_media h
  · exact contains_attribute_eq_false (b := 97) (q := lit "ice-ufrag") h (.inr hufrag)
  · exact contains_attribute_eq_false (b := 97) (q := lit "ice-pwd") h (.inr hpwd)
  · exact contains_attribute_eq_false (b := 97) (q := lit "fingerprint") h (.inr hfp)
  · exact contains_attribute_eq_false (b := 97) (q := lit "ssrc-group:") h (.inr hgroup)
  · exact contains_attribute_eq_false (b := 97) (q := lit "ssrc:") h (.inr hssrc)

theorem tokenize_pair {d : UInt8} {a b : ByteString} (ha : d ∉ a) (hane : a ≠ []) (hb : d ∉ b)
    (hbne : b ≠ []) : tokenize d (a ++ d :: b) = [a, b] := by
  rw [tokenize, split, List.splitOn_append_cons_self_of_not_mem ha, List.splitOn_eq_singleton hb]
  simp [hane, hbne]

theorem getAttribute_eq {a b : ByteString} (ha : colon ∉ a) (hane : a ≠ []) (hb : colon ∉ b)
    (hbne : b ≠ []) : getAttribute (a ++ colon :: b) = b := by
  rw [getAttribute, tokenize_pair ha hane hb hbne]

theorem takeLine_transport (h : equalsSign ∉ name ++ value)
    (hgroup : Apart name (lit "ssrc-group:")) (hssrc : Apart name (lit "ssrc:"))
    (htd : parseTransportInfo env x.td (lit "a=" ++ (name ++ value)) = .ok td) :
    takeLine env type x (lit "a=" ++ (name ++ value)) = .ok { x with td } := by
  refine takeLine_eq htd (takeGroups_skip ?_) (parseSsrcInfo_skip ?_)
  · exact contains_attribute_eq_false (b := 97) (q := lit "ssrc-group:") h (.inr hgroup)
  · exact contains_attribute_eq_false (b := 97) (q := lit "ssrc:") h (.inr hssrc)

theorem takeLine_iceUfrag {ufrag : ByteString} (heq : equalsSign ∉ ufrag) (hcolon : colon ∉ ufrag)
    (hne : ufrag ≠ []) : takeLine env type x (lit "a=ice-ufrag:" ++ ufrag) =
      .ok { x with td := { x.td with iceUfrag := ufrag } } := by
  have hline : lit "a=ice-ufrag:" ++ ufrag = lit "a=" ++ (lit "ice-ufrag:" ++ ufrag) := rfl
  have hmem : equalsSign ∉ lit "ice-ufrag:" ++ ufrag := by
    rw [List.mem_append, not_or]
    exact ⟨by decide, heq⟩
  have hattr : getAttribute (lit "a=ice-ufrag:" ++ ufrag) = ufrag :=
    getAttribute_eq (a := lit "a=ice-ufrag") (by decide) (by decide) hcolon hne
  have hfound : contains (lit "a=" ++ (lit "ice-ufrag:" ++ ufrag)) (lit "a=ice-ufrag") = true :=
    (contains_attribute hmem).mpr ⟨rfl, [colon] ++ ufrag, rfl⟩
  rw [hline] at hattr ⊢
  refine takeLine_transport hmem (by decide) (by decide) ?_
  rw [parseTransportInfo, if_pos hfound, hattr, if_neg hne]

theorem takeLine_icePwd {pwd : ByteString} (heq : equalsSign ∉ pwd) (hcolon : colon ∉ pwd)
    (hne : pwd ≠ []) : takeLine env type x (lit "a=ice-pwd:" ++ pwd) =
      .ok { x with td := { x.td with icePwd := pwd } } := by
  have hline : lit "a=ice-pwd:" ++ pwd = lit "a=" ++ (lit "ice-pwd:" ++ pwd) := rfl
  have hmem : equalsSign ∉ lit "ice-pwd:" ++ pwd := by
    rw [List.mem_append, not_or]
    exact ⟨by decide, heq⟩
  have hattr : getAttribute (lit "a=ice-pwd:" ++ pwd) = pwd :=
    getAttribute_eq (a := lit "a=ice-pwd") (by decide) (by decide) hcolon hne
  have hufrag : contains (lit "a=" ++ (lit "ice-pwd:" ++ pwd)) (lit "a=ice-ufrag") = false :=
    contains_attribute_eq_false (b := 97) (q := lit "ice-ufrag") hmem (.inr (by decide))
  have hfound : contains (lit "a=" ++ (lit "ice-pwd:" ++ pwd)) (lit "a=ice-pwd") = true :=
    (contains_attribute hmem).mpr ⟨rfl, [colon] ++ pwd, rfl⟩
  rw [hline] at hattr ⊢
  refine takeLine_transport hmem (by decide) (by decide) ?_
  rw [parseTransportInfo, hufrag, if_neg Bool.false_ne_true, if_pos hfound, hattr, if_neg hne]

theorem takeLine_fingerprint {alg digest : ByteString} {fp : SSLFingerprint}
    (heq : equalsSign ∉ alg ++ lit " " ++ digest) (halg : space ∉ alg) (hdigest : space ∉ digest)
    (hne : digest ≠ []) (hfp : env.createUniqueFromRfc4572 (alg.map toLower) digest = some fp) :
    takeLine env type x (lit "a=fingerprint:" ++ alg ++ lit " " ++ digest) =
      .ok { x with td := { x.td with identifyFingerprint := some fp } } := by
  have hline : lit "a=fingerprint:" ++ alg ++ lit " " ++ digest =
      lit "a=" ++ (lit "fingerprint:" ++ (alg ++ lit " " ++ digest)) := by
    rw [List.append_assoc, List.append_assoc, List.append_assoc]
    rfl
  have hmem : equalsSign ∉ lit "fingerprint:" ++ (alg ++ lit " " ++ digest) := by
    rw [List.mem_append, not_or]
    exact ⟨by decide, heq⟩
  have htokens : tokenize space (lit "a=fingerprint:" ++ alg ++ lit " " ++ digest) =
      [lit "a=fingerprint:" ++ alg, digest] := by
    rw [List.append_assoc _ (lit " ")]
    refine tokenize_pair ?_ (by simp [lit]) hdigest hne
    rw [List.mem_append, not_or]
    exact ⟨by decide, halg⟩
  have hcut : substrOrThrow (lit "a=fingerprint:" ++ alg) 14 = .ok alg :=
    substrOrThrow_of_le (by simp [lit])
  have hfound : contains (lit "a=" ++ (lit "fingerprint:" ++ (alg ++ lit " " ++ digest)))
      (lit "a=fingerprint") = true := (contains_attribute hmem).mpr ⟨rfl, _, rfl⟩
  have hufrag : contains (lit "a=" ++ (lit "fingerprint:" ++ (alg ++ lit " " ++ digest)))
      (lit "a=ice-ufrag") = false :=
    contains_attribute_eq_false (b := 97) (q := lit "ice-ufrag") hmem (.inr (by decide))
  have hpwd : contains (lit "a=" ++ (lit "fingerprint:" ++ (alg ++ lit " " ++ digest)))
      (lit "a=ice-pwd") = false :=
    contains_attribute_eq_false (b := 97) (q := lit "ice-pwd") hmem (.inr (by decide))
  rw [hline] at htokens ⊢
  refine takeLine_transport hmem (by decide) (by decide) ?_
  rw [parseTransportInfo, htokens, hufrag, hpwd, hfound]
  dsimp only
  rw [if_neg Bool.false_ne_true, if_neg Bool.false_ne_true, if_pos rfl, hcut, ok_bind, hfp]

/-! ### Sources -/

/-- A byte of a string that no delimiter or keyword can be confused with. -/
def IsTokenByte (b : UInt8) : Prop :=
  b ≠ space ∧ b ≠ 13 ∧ b ≠ newline ∧ b ≠ colon ∧ b ≠ equalsSign

def IsToken (s : ByteString) : Prop := ∀ b ∈ s, IsTokenByte b

instance (b : UInt8) : Decidable (IsTokenByte b) := inferInstanceAs (Decidable (_ ∧ _))

instance (s : ByteString) : Decidable (IsToken s) :=
  List.decidableBAll IsTokenByte s

theorem IsToken.not_mem {s : ByteString} (h : IsToken s) : space ∉ s ∧ newline ∉ s ∧ colon ∉ s ∧
    equalsSign ∉ s :=
  ⟨fun hb ↦ (h _ hb).1 rfl, fun hb ↦ (h _ hb).2.2.1 rfl, fun hb ↦ (h _ hb).2.2.2.1 rfl,
    fun hb ↦ (h _ hb).2.2.2.2 rfl⟩

theorem isToken_decimal (n : ℕ) : IsToken (decimal n) := by
  intro b hb
  obtain ⟨hlow, hhigh⟩ := digit_of_mem_decimal hb
  refine ⟨?_, ?_, ?_, ?_, ?_⟩ <;> rintro rfl <;> revert hlow hhigh <;> decide

/-- The text before the first delimiter and the text after the run of delimiters there. -/
theorem tokenizeFirst_append {d : UInt8} {a b : ByteString} (n : ℕ) (ha : d ∉ a)
    (hb : b.head? ≠ some d) :
    tokenizeFirst d (a ++ (List.replicate (n + 1) d ++ b)) = some (a, b) := by
  have hmem : d ∈ a ++ (List.replicate (n + 1) d ++ b) :=
    List.mem_append_right _ List.mem_cons_self
  have hall : ∀ c ∈ a, decide (c ≠ d) = true :=
    fun c hc ↦ decide_eq_true fun heq ↦ ha (heq ▸ hc)
  have hrun : ∀ c ∈ List.replicate (n + 1) d, decide (c = d) = true :=
    fun c hc ↦ decide_eq_true (List.eq_of_mem_replicate hc)
  have hrest : b.dropWhile (fun c ↦ decide (c = d)) = b := by
    cases b with
    | nil => rfl
    | cons c b =>
      rw [List.dropWhile_cons, if_neg]
      intro heq
      rw [of_decide_eq_true heq] at hb
      exact hb rfl
  rw [tokenizeFirst, if_pos hmem, List.takeWhile_append_of_pos hall,
    List.dropWhile_append_of_pos hall, List.replicate_succ, List.cons_append,
    List.takeWhile_cons_of_neg (by simp), List.dropWhile_cons_of_neg (by simp), ← List.cons_append,
    ← List.replicate_succ, List.dropWhile_append_of_pos hrun, hrest, List.append_nil]

theorem tokenizeFirst_eq {d : UInt8} {a b : ByteString} (ha : d ∉ a) (hb : b.head? ≠ some d) :
    tokenizeFirst d (a ++ d :: b) = some (a, b) :=
  tokenizeFirst_append 0 ha hb

theorem updateSsrc_new {ssrc : UInt32} (h : ssrc ∉ infos.map (·.ssrcId)) (f : SsrcInfo → SsrcInfo) :
    updateSsrc infos ssrc f = infos ++ [f { ssrcId := ssrc }] := by
  have hany : ¬infos.any (·.ssrcId == ssrc) = true := by
    rw [List.any_eq_true]
    rintro ⟨info, hinfo, heq⟩
    exact h (List.mem_map.mpr ⟨info, hinfo, beq_iff_eq.mp heq⟩)
  have hold : ∀ info ∈ infos, (if info.ssrcId = ssrc then f info else info) = info :=
    fun info hinfo ↦ if_neg fun heq ↦ h (List.mem_map.mpr ⟨info, hinfo, heq⟩)
  rw [updateSsrc, if_neg hany, List.map_append, List.map_congr_left hold, List.map_id']
  simp

theorem updateSsrc_last {info : SsrcInfo} (h : info.ssrcId ∉ infos.map (·.ssrcId))
    (f : SsrcInfo → SsrcInfo) :
    updateSsrc (infos ++ [info]) info.ssrcId f = infos ++ [f info] := by
  have hany : (infos ++ [info]).any (·.ssrcId == info.ssrcId) = true := by simp
  have hold : ∀ i ∈ infos, (if i.ssrcId = info.ssrcId then f i else i) = i :=
    fun i hi ↦ if_neg fun heq ↦ h (List.mem_map.mpr ⟨i, hi, heq⟩)
  rw [updateSsrc, if_pos hany, List.map_append, List.map_congr_left hold, List.map_id']
  simp

theorem parseSsrcInfo_ssrcLine (hnum : ∀ n : UInt32, env.fromString (decimal n.toNat) = some n)
    (ssrc : UInt32) {attr value : ByteString} (hattr : IsToken attr) (hne : attr ≠ [])
    (heq : equalsSign ∉ value) (hvalue : value.head? ≠ some colon) :
    parseSsrcInfo env infos (ssrcLine ssrc attr value) =
      if attr = lit "cname" then
        .ok (updateSsrc infos ssrc fun info ↦ { info with cname := value })
      else if attr = lit "msid" then
        match split space value with
        | [streamId] => .ok (updateSsrc infos ssrc fun info ↦ { info with streamId })
        | [streamId, trackId] =>
          .ok (updateSsrc infos ssrc fun info ↦ { info with streamId, trackId })
        | _ => .error .reject
      else .ok (updateSsrc infos ssrc id) := by
  have hline : ssrcLine ssrc attr value =
      lit "a=" ++ (lit "ssrc:" ++ (decimal ssrc.toNat ++ space :: (attr ++ colon :: value))) := by
    simp only [ssrcLine, List.append_assoc]
    rfl
  have hmem : equalsSign ∉
      lit "ssrc:" ++ (decimal ssrc.toNat ++ space :: (attr ++ colon :: value)) := by
    have hdigits := (isToken_decimal ssrc.toNat).not_mem.2.2.2
    have hattr' := hattr.not_mem.2.2.2
    simp only [List.mem_append, List.mem_cons, not_or]
    exact ⟨by decide, hdigits, by decide, hattr', by decide, heq⟩
  have hfound : contains (lit "a=" ++ (lit "ssrc:" ++
      (decimal ssrc.toNat ++ space :: (attr ++ colon :: value)))) (lit "a=ssrc:") = true :=
    contains_attribute_eq_true hmem
  have hfields : tokenizeFirst space (lit "ssrc:" ++ decimal ssrc.toNat ++
      space :: (attr ++ colon :: value)) =
      some (lit "ssrc:" ++ decimal ssrc.toNat, attr ++ colon :: value) := by
    refine tokenizeFirst_eq ?_ ?_
    · rw [List.mem_append, not_or]
      exact ⟨by decide, (isToken_decimal ssrc.toNat).not_mem.1⟩
    · obtain ⟨b, attr, rfl⟩ := List.exists_cons_of_ne_nil hne
      intro hhead
      exact (hattr b List.mem_cons_self).1 (Option.some.inj hhead)
  have hcut : substrOrThrow (lit "a=" ++ (lit "ssrc:" ++
      (decimal ssrc.toNat ++ space :: (attr ++ colon :: value)))) 2 =
      .ok (lit "ssrc:" ++ decimal ssrc.toNat ++ space :: (attr ++ colon :: value)) := by
    rw [List.append_assoc]
    exact substrOrThrow_of_le (by simp [lit])
  have hnumber : substrOrThrow (lit "ssrc:" ++ decimal ssrc.toNat) 5 = .ok (decimal ssrc.toNat) :=
    substrOrThrow_of_le (by simp [lit])
  have hattribute := tokenizeFirst_eq hattr.not_mem.2.2.1 hvalue
  rw [hline, parseSsrcInfo, if_pos hfound, hcut, ok_bind, hfields]
  dsimp only
  rw [hnumber, ok_bind, hnum]
  dsimp only
  generalize tokenizeFirst colon (attr ++ colon :: value) = fields at hattribute ⊢
  subst hattribute
  rfl

theorem takeLine_ssrcLine {ssrc : UInt32} {attr value : ByteString} (hattr : IsToken attr)
    (heq : equalsSign ∉ value)
    (hinfos : parseSsrcInfo env x.infos (ssrcLine ssrc attr value) = .ok infos) :
    takeLine env type x (ssrcLine ssrc attr value) = .ok { x with infos } := by
  have hline : ssrcLine ssrc attr value =
      lit "a=" ++ (lit "ssrc:" ++ (decimal ssrc.toNat ++ space :: (attr ++ colon :: value))) := by
    simp only [ssrcLine, List.append_assoc]
    rfl
  have hmem : equalsSign ∉
      lit "ssrc:" ++ (decimal ssrc.toNat ++ space :: (attr ++ colon :: value)) := by
    have hdigits := (isToken_decimal ssrc.toNat).not_mem.2.2.2
    have hattr' := hattr.not_mem.2.2.2
    simp only [List.mem_append, List.mem_cons, not_or]
    exact ⟨by decide, hdigits, by decide, hattr', by decide, heq⟩
  refine takeLine_eq (parseTransportInfo_skip ?_ ?_ ?_) (takeGroups_skip ?_) hinfos
  · rw [hline]
    exact contains_attribute_eq_false (b := 97) (q := lit "ice-ufrag") hmem (.inr (by decide))
  · rw [hline]
    exact contains_attribute_eq_false (b := 97) (q := lit "ice-pwd") hmem (.inr (by decide))
  · rw [hline]
    exact contains_attribute_eq_false (b := 97) (q := lit "fingerprint") hmem (.inr (by decide))
  · rw [hline]
    exact contains_attribute_eq_false (b := 97) (q := lit "ssrc-group:") hmem (.inr (by decide))

/-- What the parser makes of a source. -/
def infoOf (track : StreamParams) (ssrc : UInt32) : SsrcInfo where
  ssrcId := ssrc
  cname := track.cname
  streamId := track.streamId
  trackId := track.id

/-- The strings of a track. -/
structure TrackTokens (track : StreamParams) : Prop where
  id : IsToken track.id
  streamId : IsToken track.streamId
  cname : IsToken track.cname
  semantics : ∀ group ∈ track.ssrcGroups, IsToken group.semantics ∧ group.semantics ≠ []

theorem head?_ne_colon {s : ByteString} (h : IsToken s) : s.head? ≠ some colon := by
  cases s with
  | nil => exact nofun
  | cons b s => exact fun heq ↦ (h b List.mem_cons_self).2.2.2.1 (Option.some.inj heq)

/-- **The four lines of a source.** -/
theorem takes_ssrcLines (hnum : ∀ n : UInt32, env.fromString (decimal n.toNat) = some n)
    {track : StreamParams} (ht : TrackTokens track) {ssrc : UInt32}
    (hnew : ssrc ∉ x.infos.map (·.ssrcId)) :
    Takes env type x (ssrcLines track ssrc)
      { x with infos := x.infos ++ [infoOf track ssrc] } := by
  have hid := ht.id.not_mem
  have hstream := ht.streamId.not_mem
  have hmsid : (track.streamId ++ lit " " ++ track.id).head? ≠ some colon := by
    rcases htrack : track.streamId with _ | ⟨b, streamId⟩
    · exact fun heq ↦ absurd (Option.some.inj heq) (by decide)
    · refine fun heq ↦ (ht.streamId b ?_).2.2.2.1 (Option.some.inj heq)
      rw [htrack]
      exact List.mem_cons_self
  have hsplit : split space (track.streamId ++ lit " " ++ track.id) =
      [track.streamId, track.id] := by
    rw [List.append_assoc, split]
    exact (List.splitOn_append_cons_self_of_not_mem hstream.1 _).trans
      (congrArg _ (List.splitOn_eq_singleton hid.1))
  have hmem : equalsSign ∉ track.streamId ++ lit " " ++ track.id := by
    rw [List.mem_append, List.mem_append, not_or, not_or]
    exact ⟨⟨hstream.2.2.2, by decide⟩, hid.2.2.2⟩
  -- the first line adds the source, the others find it at the end
  have hlast (info : SsrcInfo) (h : info.ssrcId = ssrc) (f : SsrcInfo → SsrcInfo) :
      updateSsrc (x.infos ++ [info]) ssrc f = x.infos ++ [f info] := by
    rw [← h] at hnew ⊢
    exact updateSsrc_last hnew f
  have hcname : takeLine env type x (ssrcLine ssrc (lit "cname") track.cname) = .ok
      { x with infos := x.infos ++ [{ ssrcId := ssrc, cname := track.cname }] } := by
    refine takeLine_ssrcLine (by decide) ht.cname.not_mem.2.2.2 ?_
    rw [parseSsrcInfo_ssrcLine hnum ssrc (by decide) (by decide) ht.cname.not_mem.2.2.2
      (head?_ne_colon ht.cname), if_pos rfl, updateSsrc_new hnew]
  have hmsid : takeLine env type
      { x with infos := x.infos ++ [{ ssrcId := ssrc, cname := track.cname }] }
      (ssrcLine ssrc (lit "msid") (track.streamId ++ lit " " ++ track.id)) = .ok
      { x with infos := x.infos ++ [infoOf track ssrc] } := by
    refine takeLine_ssrcLine (by decide) hmem ?_
    rw [parseSsrcInfo_ssrcLine hnum ssrc (by decide) (by decide) hmem hmsid,
      if_neg (by decide), if_pos rfl, hsplit]
    dsimp only
    rw [hlast _ rfl]
    rfl
  have hlabel (attr value : ByteString) (hattr : IsToken attr) (hne : attr ≠ [])
      (hother : attr ≠ lit "cname" ∧ attr ≠ lit "msid") (hvalue : IsToken value) :
      takeLine env type { x with infos := x.infos ++ [infoOf track ssrc] }
        (ssrcLine ssrc attr value) = .ok
        { x with infos := x.infos ++ [infoOf track ssrc] } := by
    refine takeLine_ssrcLine hattr hvalue.not_mem.2.2.2 ?_
    rw [parseSsrcInfo_ssrcLine hnum ssrc hattr hne hvalue.not_mem.2.2.2 (head?_ne_colon hvalue),
      if_neg hother.1, if_neg hother.2]
    dsimp only
    rw [hlast _ rfl]
    rfl
  exact .cons hcname (.cons hmsid (.cons
    (hlabel _ _ (by decide) (by decide) ⟨by decide, by decide⟩ ht.streamId)
    (.cons (hlabel _ _ (by decide) (by decide) ⟨by decide, by decide⟩ ht.id) .nil)))

theorem takes_ssrcs (hnum : ∀ n : UInt32, env.fromString (decimal n.toNat) = some n)
    {track : StreamParams} (ht : TrackTokens track) {ssrcs : List UInt32}
    (hnew : (x.infos.map (·.ssrcId) ++ ssrcs).Nodup) :
    Takes env type x (ssrcs.flatMap (ssrcLines track))
      { x with infos := x.infos ++ ssrcs.map (infoOf track) } := by
  induction ssrcs generalizing x with
  | nil =>
    rw [List.map_nil, List.append_nil]
    exact .nil
  | cons ssrc ssrcs ih =>
    have hfirst : ssrc ∉ x.infos.map (·.ssrcId) := by
      intro hmem
      exact (List.nodup_append.mp hnew).2.2 ssrc hmem ssrc List.mem_cons_self rfl
    have hrest : ((x.infos ++ [infoOf track ssrc]).map (·.ssrcId) ++ ssrcs).Nodup := by
      rw [List.map_append, List.append_assoc]
      exact hnew
    have hlines : Takes env type { x with infos := x.infos ++ [infoOf track ssrc] } _ _ := ih hrest
    dsimp only at hlines
    rw [List.append_assoc] at hlines
    rw [List.flatMap_cons]
    exact (takes_ssrcLines hnum ht hfirst).append hlines

/-! ### Groups and tracks -/

/-- The groups that a section of this type keeps. -/
def MediaType.keptGroups (type : MediaType) (groups : List SsrcGroup) : List SsrcGroup :=
  if type = .video then groups else []

theorem split_space_ssrcs {a : ByteString} (ha : space ∉ a) (ssrcs : List UInt32) :
    split space (a ++ ssrcs.flatMap fun ssrc ↦ lit " " ++ decimal ssrc.toNat) =
      a :: ssrcs.map fun ssrc ↦ decimal ssrc.toNat := by
  induction ssrcs generalizing a with
  | nil =>
    rw [List.flatMap_nil, List.append_nil, split, List.splitOn_eq_singleton ha]
    rfl
  | cons ssrc ssrcs ih =>
    rw [List.flatMap_cons, List.append_assoc, split]
    exact (List.splitOn_append_cons_self_of_not_mem ha _).trans
      (congrArg _ (ih (isToken_decimal ssrc.toNat).not_mem.1))

theorem takeGroups_ssrcGroupLine (hnum : ∀ n : UInt32, env.fromString (decimal n.toNat) = some n)
    {group : SsrcGroup} (hsemantics : IsToken group.semantics) (hne : group.semantics ≠ [])
    (hssrcs : group.ssrcs ≠ []) (hfound : (ssrcGroupLine group).contains (lit "a=ssrc-group:")) :
    takeGroups env type groups (ssrcGroupLine group) =
      .ok (groups ++ type.keptGroups [group]) := by
  cases type with
  | audio =>
    rw [takeGroups, if_neg (by decide)]
    exact congrArg _ (List.append_nil _).symm
  | video =>
    have htokens := hsemantics.not_mem
    have hcut : substrOrThrow (ssrcGroupLine group) 2 = .ok (lit "ssrc-group:" ++ group.semantics ++
        group.ssrcs.flatMap fun ssrc ↦ lit " " ++ decimal ssrc.toNat) :=
      substrOrThrow_of_le (by simp [ssrcGroupLine, lit])
    have hsplit : split space (lit "ssrc-group:" ++ group.semantics ++
        group.ssrcs.flatMap fun ssrc ↦ lit " " ++ decimal ssrc.toNat) =
        (lit "ssrc-group:" ++ group.semantics) ::
          group.ssrcs.map fun ssrc ↦ decimal ssrc.toNat := by
      refine split_space_ssrcs ?_ group.ssrcs
      rw [List.mem_append, not_or]
      exact ⟨by decide, htokens.1⟩
    have hattr : getAttribute (lit "ssrc-group:" ++ group.semantics) = group.semantics :=
      getAttribute_eq (a := lit "ssrc-group") (by decide) (by decide) htokens.2.2.1 hne
    have hnumbers : (group.ssrcs.map fun ssrc ↦ decimal ssrc.toNat).mapM env.fromString =
        some group.ssrcs := by
      rw [List.mapM_map]
      exact (mapM_eq_some fun n _ ↦ hnum n).trans (congrArg some (List.map_id' _))
    rw [takeGroups, if_pos rfl, parseSsrcGroupInfo, if_pos hfound, hcut, ok_bind, hsplit]
    obtain ⟨ssrc, ssrcs, heq⟩ := List.exists_cons_of_ne_nil hssrcs
    rw [heq, List.map_cons] at hnumbers ⊢
    dsimp only
    rw [hattr, if_neg hne, hnumbers]
    dsimp only [MediaType.keptGroups]
    rw [if_pos rfl, ← heq]

theorem takeLine_ssrcGroupLine (hnum : ∀ n : UInt32, env.fromString (decimal n.toNat) = some n)
    {group : SsrcGroup} (hsemantics : IsToken group.semantics) (hne : group.semantics ≠ [])
    (hssrcs : group.ssrcs ≠ []) : takeLine env type x (ssrcGroupLine group) =
      .ok { x with groups := x.groups ++ type.keptGroups [group] } := by
  have hline : ssrcGroupLine group = lit "a=" ++ (lit "ssrc-group:" ++ (group.semantics ++
      group.ssrcs.flatMap fun ssrc ↦ lit " " ++ decimal ssrc.toNat)) := by
    rw [ssrcGroupLine, List.append_assoc]
    rfl
  have hmem : equalsSign ∉ lit "ssrc-group:" ++ (group.semantics ++
      group.ssrcs.flatMap fun ssrc ↦ lit " " ++ decimal ssrc.toNat) := by
    rw [List.mem_append, List.mem_append, not_or, not_or]
    refine ⟨by decide, hsemantics.not_mem.2.2.2, fun hb ↦ ?_⟩
    obtain ⟨ssrc, -, hb⟩ := List.mem_flatMap.mp hb
    rcases List.mem_append.mp hb with hb | hb
    · exact absurd hb (by decide)
    · exact (isToken_decimal ssrc.toNat).not_mem.2.2.2 hb
  have hfound : (ssrcGroupLine group).contains (lit "a=ssrc-group:") = true := by
    rw [hline]
    exact contains_attribute_eq_true hmem
  refine takeLine_eq (parseTransportInfo_skip ?_ ?_ ?_)
    (takeGroups_ssrcGroupLine hnum hsemantics hne hssrcs hfound) (parseSsrcInfo_skip ?_)
  · rw [hline]
    exact contains_attribute_eq_false (b := 97) (q := lit "ice-ufrag") hmem (.inr (by decide))
  · rw [hline]
    exact contains_attribute_eq_false (b := 97) (q := lit "ice-pwd") hmem (.inr (by decide))
  · rw [hline]
    exact contains_attribute_eq_false (b := 97) (q := lit "fingerprint") hmem (.inr (by decide))
  · rw [hline]
    exact contains_attribute_eq_false (b := 97) (q := lit "ssrc:") hmem (.inr (by decide))

theorem MediaType.keptGroups_append (type : MediaType) (groups groups' : List SsrcGroup) :
    type.keptGroups (groups ++ groups') = type.keptGroups groups ++ type.keptGroups groups' := by
  rw [keptGroups, keptGroups, keptGroups]
  split_ifs
  · rfl
  · rfl

theorem takes_ssrcGroups (hnum : ∀ n : UInt32, env.fromString (decimal n.toNat) = some n)
    {gs : List SsrcGroup}
    (hgs : ∀ g ∈ gs, IsToken g.semantics ∧ g.semantics ≠ [] ∧ g.ssrcs ≠ []) :
    Takes env type x (gs.map ssrcGroupLine)
      { x with groups := x.groups ++ type.keptGroups gs } := by
  induction gs generalizing x with
  | nil =>
    have hnil : type.keptGroups [] = [] := ite_self []
    rw [hnil, List.append_nil]
    exact .nil
  | cons g gs ih =>
    obtain ⟨htoken, hne, hssrcs⟩ := hgs g List.mem_cons_self
    have hrest : Takes env type { x with groups := x.groups ++ type.keptGroups [g] } _ _ :=
      ih fun g' hg' ↦ hgs g' (List.mem_cons_of_mem _ hg')
    dsimp only at hrest
    rw [List.append_assoc, ← MediaType.keptGroups_append] at hrest
    exact .cons (takeLine_ssrcGroupLine hnum htoken hne hssrcs) hrest

/-- What the parser makes of the sources of the tracks. -/
def trackInfos (tracks : List StreamParams) : List SsrcInfo :=
  tracks.flatMap fun track ↦ track.ssrcs.map (infoOf track)

theorem map_ssrcId_infoOf (track : StreamParams) (ssrcs : List UInt32) :
    (ssrcs.map (infoOf track)).map (·.ssrcId) = ssrcs := by
  rw [List.map_map]
  exact List.map_id' ssrcs

/-- **The lines of the tracks.** -/
theorem takes_tracks (hnum : ∀ n : UInt32, env.fromString (decimal n.toNat) = some n)
    {tracks : List StreamParams} (ht : ∀ track ∈ tracks, TrackTokens track)
    (hgroups : ∀ track ∈ tracks, ∀ group ∈ track.ssrcGroups, group.ssrcs ≠ [])
    (hnew : (x.infos.map (·.ssrcId) ++ tracks.flatMap (·.ssrcs)).Nodup) :
    Takes env type x (tracks.flatMap trackLines)
      { x with
        infos := x.infos ++ trackInfos tracks
        groups := x.groups ++ type.keptGroups (tracks.flatMap (·.ssrcGroups)) } := by
  induction tracks generalizing x with
  | nil =>
    have hnil : type.keptGroups (([] : List StreamParams).flatMap (·.ssrcGroups)) = [] :=
      ite_self []
    have hinfos : trackInfos [] = [] := rfl
    rw [hnil, hinfos, List.append_nil, List.append_nil]
    exact .nil
  | cons track tracks ih =>
    have htrack := ht track List.mem_cons_self
    have hkeep : track.ssrcGroups.filter (·.ssrcs ≠ []) = track.ssrcGroups :=
      List.filter_eq_self.mpr fun group hgroup ↦
        decide_eq_true (hgroups track List.mem_cons_self group hgroup)
    rw [List.flatMap_cons, ← List.append_assoc] at hnew
    have hrest : ((x.infos ++ track.ssrcs.map (infoOf track)).map (·.ssrcId) ++
        tracks.flatMap (·.ssrcs)).Nodup := by
      rw [List.map_append, map_ssrcId_infoOf]
      exact hnew
    have hlines : Takes env type { x with
        infos := x.infos ++ track.ssrcs.map (infoOf track)
        groups := x.groups ++ type.keptGroups track.ssrcGroups } _ _ :=
      ih (fun t h ↦ ht t (List.mem_cons_of_mem _ h))
        (fun t h ↦ hgroups t (List.mem_cons_of_mem _ h)) hrest
    dsimp only at hlines
    rw [List.append_assoc, List.append_assoc, ← MediaType.keptGroups_append] at hlines
    have hgs : Takes env type x (track.ssrcGroups.map ssrcGroupLine)
        { x with groups := x.groups ++ type.keptGroups track.ssrcGroups } :=
      takes_ssrcGroups hnum fun group hgroup ↦ ⟨(htrack.semantics group hgroup).1,
        (htrack.semantics group hgroup).2, hgroups track List.mem_cons_self group hgroup⟩
    have hssrcs : Takes env type { x with
        groups := x.groups ++ type.keptGroups track.ssrcGroups } _ _ :=
      takes_ssrcs hnum htrack (List.nodup_append.mp hnew).1
    rw [List.flatMap_cons, trackLines, hkeep]
    exact (hgs.append hssrcs).append hlines

end Lines

end XrtcServer
