import Mathlib.Data.List.Perm.Basic
import QmlExport.Command.Program
import QmlExport.Proofs.Json.Decoding
import QmlExport.Proofs.Json.Encoded
import QmlExport.Proofs.Json.Layout

/-!
# Answers are read back

**Whoever reads the text of an answer gets the answer** (`Answer.read_back`), on one line or over
several, and also as it is printed, with a new line at its end:

    answer --members--> record --text--> octets --parse--> record --mode, fields--> answer

The mode is split off the record again, since no other member has its name (`splitMode?_toJson`).
What is left are the fields that the mode expects: one line per field says what it gives, and a
field that is left out gives its default (`Outcome.yieldsIf_ofFields`). No answer nests deeper than
five levels. Counts are numbers of 64 bits, as they are for the reader.
-/

namespace QmlExport

open Json Upload
open Json.Fields (yieldsIf_required yieldsIf_orElse yieldsIf_nullable gives_some gives_same
  gives_items gives_texts)

/-! ## Counts -/

/-- The number fits 64 bits. -/
def Fits (n : Nat) : Prop := n < 2 ^ 64

instance (n : Nat) : Decidable (Fits n) := inferInstanceAs (Decidable (n < 2 ^ 64))

theorem Fits.lt {n : Nat} (h : Fits n) : n < Decimal.significandBound := h

/-- The counts of a summary fit 64 bits. -/
structure Run.FontSummary.Counted (s : FontSummary) : Prop where
  requested : Fits s.requested
  downloaded : Fits s.downloaded
  skipped : Fits s.skipped

/-- The counts of a report fit 64 bits. -/
structure Run.Report.Counted (r : Report) : Prop where
  images : Fits r.images
  codeFiles : Fits r.codeFiles
  fonts : ∀ s, r.fonts = some s → s.Counted

/-- The counts of a package fit 64 bits. -/
structure Parcel.Counted (p : Parcel) : Prop where
  fileCount : Fits p.fileCount
  size : Fits p.size

/-- The counts of an outcome fit 64 bits. -/
def Outcome.Counted : Outcome → Prop
  | .uploaded receipt _ => Fits receipt.size
  | .processed _ report _ => report.Counted
  | .packaged parcel => parcel.Counted
  | .converted receipt _ report parcel _ =>
    Fits receipt.size ∧ report.Counted ∧ parcel.body.Counted
  | .cleared _ | .failed .. => True

/-! ## Records -/

namespace Design.Options

theorem reads (o : Options) : decoder.Reads o.toJson o := by
  refine Decoder.reads_record (by decide) (.refl _) fun levels => ?_
  refine YieldsIf.congr (yieldsIf_required (Decoder.reads_bool o.addIds) ?_ <|
    yieldsIf_required (Decoder.reads_bool o.addUniqueIds) ?_ <|
    yieldsIf_required (Decoder.reads_bool o.addObjectNames) ?_ <|
    yieldsIf_required (Decoder.reads_bool o.downloadFonts) ?_ <| .always rfl trivial) ?_
  all_goals simp

theorem encoded (o : Options) : o.toJson.Encoded :=
  encoded_fields (encoded_cons (encoded_bool _) (encoded_cons (encoded_bool _)
    (encoded_cons (encoded_bool _) (encoded_cons (encoded_bool _) encoded_nil))))

theorem nesting_toJson (o : Options) : o.toJson.nesting = 1 := rfl

end Design.Options

namespace Run

namespace FontFailure

theorem reads (f : FontFailure) : decoder.Reads f.toJson f := by
  refine Decoder.reads_record (by decide) (.refl _) fun levels => ?_
  refine YieldsIf.congr (yieldsIf_required (Decoder.reads_text f.family) ?_ <|
    yieldsIf_required (Decoder.reads_text f.message) ?_ <| .always rfl trivial) ?_
  all_goals simp

theorem encoded (f : FontFailure) : f.toJson.Encoded :=
  encoded_fields (encoded_cons (encoded_text _) (encoded_cons (encoded_text _) encoded_nil))

end FontFailure

namespace FontSummary

theorem reads (s : FontSummary) (h : s.Counted) : decoder.Reads s.toJson s := by
  refine Decoder.reads_record (by decide) (names_append (.refl _) (names_omitEmpty ..))
    fun levels => ?_
  refine YieldsIf.congr (yieldsIf_required (Decoder.reads_nat h.requested.lt) ?_ <|
    yieldsIf_required (Decoder.reads_nat h.downloaded.lt) ?_ <|
    yieldsIf_required (Decoder.reads_nat h.skipped.lt) ?_ <|
    yieldsIf_orElse (gives_items s.failures fun f _ => f.reads) ?_ <| .always rfl trivial) ?_
  all_goals simp

theorem encoded (s : FontSummary) (h : s.Counted) : s.toJson.Encoded :=
  encoded_fields (encoded_append
    (encoded_cons (encoded_nat h.requested.lt) (encoded_cons (encoded_nat h.downloaded.lt)
      (encoded_cons (encoded_nat h.skipped.lt) encoded_nil)))
    (encoded_omitEmpty _ fun f _ => f.encoded))

theorem nesting_le (s : FontSummary) : s.toJson.nesting ≤ 3 := by
  have hfailures : depthOf (listValue? FontFailure.toJson s.failures) ≤ 2 :=
    depthOf_listValue?_le fun f _ => Nat.le_refl 1
  rw [toJson, nesting_fields, depth_append, depth_omitEmpty]
  exact Nat.succ_le_succ (Nat.max_le.2 ⟨Nat.zero_le 2, hfailures⟩)

end FontSummary

namespace Report

theorem reads (r : Report) (h : r.Counted) : decoder.Reads r.toJson r := by
  have hfonts := gives_some (g := id) r.fonts (fun s hs => s.reads (h.fonts s hs)) nofun
  rw [Option.map_id, id] at hfonts
  refine Decoder.reads_record (by decide) (names_append (.refl _) (names_omitNone ..))
    fun levels => ?_
  refine YieldsIf.congr (yieldsIf_required (Decoder.reads_bool r.resumed) ?_ <|
    yieldsIf_required (Decoder.reads_nat h.images.lt) ?_ <|
    yieldsIf_required (Decoder.reads_nat h.codeFiles.lt) ?_ <|
    yieldsIf_required (Decoder.reads_items fun s _ => Decoder.reads_text s) ?_ <|
    yieldsIf_nullable hfonts rfl ?_ <| .always rfl trivial) ?_
  all_goals simp

theorem encoded (r : Report) (h : r.Counted) : r.toJson.Encoded := by
  refine encoded_fields (encoded_append (encoded_cons (encoded_bool _)
    (encoded_cons (encoded_nat h.images.lt) (encoded_cons (encoded_nat h.codeFiles.lt)
      (encoded_cons (encoded_array fun s _ => encoded_text s) encoded_nil)))) ?_)
  cases hfonts : r.fonts with
  | none => exact encoded_nil
  | some s => exact encoded_cons (s.encoded (h.fonts s hfonts)) encoded_nil

theorem nesting_le (r : Report) : r.toJson.nesting ≤ 4 := by
  have hfamilies : (Value.array (r.fontFamilies.map .text)).nesting ≤ 1 :=
    nesting_array_le fun s _ => Nat.le_refl 0
  have hfonts : depthOf (r.fonts.map FontSummary.toJson) ≤ 3 := depthOf_map_le FontSummary.nesting_le
  rw [toJson, nesting_fields, depth_append, depth_omitNone]
  simp only [depth_cons, depth_nil, nesting_bool, nesting_nat]
  omega

end Report

end Run

namespace Payload

theorem reads (p : Payload) :
    (decoderWith (.settledChoice Category.names)).Reads p.toJson p := by
  have hcategory : Category.names.lookup p.category.name = some p.category := by
    cases p.category <;> rfl
  refine Decoder.reads_record (by decide) (names_append (.refl _) (names_omitNone ..))
    fun levels => ?_
  refine YieldsIf.congr (yieldsIf_required (Decoder.reads_settledChoice hcategory) ?_ <|
    yieldsIf_required (Decoder.reads_text p.message) ?_ <|
    yieldsIf_nullable (gives_same p.remedy Decoder.reads_text nofun) rfl ?_ <|
    .always rfl trivial) ?_
  all_goals simp

theorem encoded (p : Payload) : p.toJson.Encoded :=
  encoded_fields (encoded_append
    (encoded_cons (encoded_text _) (encoded_cons (encoded_text _) encoded_nil))
    (encoded_omitNone _ encoded_text))

theorem nesting_le (p : Payload) : p.toJson.nesting ≤ 1 := by
  have hremedy : depthOf (p.remedy.map .text) ≤ 0 := depthOf_map_le fun s => Nat.le_refl 0
  rw [toJson, nesting_fields, depth_append, depth_omitNone]
  exact Nat.succ_le_succ (Nat.max_le.2 ⟨Nat.zero_le 0, hremedy⟩)

end Payload

/-! ### Receipts and packages

Their fields may stand among others. -/

namespace Upload.Receipt

theorem ofFields?_eq {r : Receipt} (h : Fits r.size) {fs : Fields}
    (hname : fs.given.lookup "fileName" = some (.text r.fileName))
    (hsize : fs.given.lookup "sizeBytes" = some (.nat r.size)) : ofFields? fs = some r := by
  have hcount := (Decoder.reads_nat h.lt fs.levels).some (Nat.zero_le _)
  simp only [ofFields?, Fields.required, hname, hsize, Option.bind_some, hcount,
    Option.bind_eq_bind]
  rfl

theorem reads (r : Receipt) (h : Fits r.size) : decoder.Reads r.toJson r :=
  Decoder.reads_record (by decide) (.refl _) fun _ =>
    .always (ofFields?_eq h rfl rfl) (Nat.zero_le _)

theorem encoded_members (r : Receipt) (h : Fits r.size) : ∀ m ∈ r.members, m.2.Encoded :=
  encoded_cons (encoded_text _) (encoded_cons (encoded_nat h.lt) encoded_nil)

end Upload.Receipt

namespace Parcel

theorem ofFields?_eq {p : Parcel} (h : p.Counted) {fs : Fields}
    (hname : fs.given.lookup "fileName" = some (.text p.fileName))
    (hpath : fs.given.lookup "path" = some p.path.toJson)
    (hcount : fs.given.lookup "fileCount" = some (.nat p.fileCount))
    (hsize : fs.given.lookup "sizeBytes" = some (.nat p.size)) : ofFields? fs = some p := by
  have hfiles := (Decoder.reads_nat h.fileCount.lt fs.levels).some (Nat.zero_le _)
  have hbytes := (Decoder.reads_nat h.size.lt fs.levels).some (Nat.zero_le _)
  simp only [ofFields?, Fields.required, hname, hpath, hcount, hsize, Option.bind_some, hfiles,
    hbytes, Option.bind_eq_bind]
  rfl

theorem encoded_members (p : Parcel) (h : p.Counted) : ∀ m ∈ p.members, m.2.Encoded :=
  encoded_cons (encoded_text _) (encoded_cons (encoded_text _)
    (encoded_cons (encoded_nat h.fileCount.lt) (encoded_cons (encoded_nat h.size.lt) encoded_nil)))

end Parcel

namespace Versioned

/-- A body is read with the version in front of it. -/
theorem yieldsIf_ofFields {α : Type} {read : Fields → Option α} {fs : Fields} {v : Versioned α}
    {p : Prop} (hversion : fs.given.lookup "version" = some (.text v.version))
    (h : YieldsIf p (read fs) v.body) : YieldsIf p (ofFields? read fs) v := by
  refine (yieldsIf_required (Decoder.reads_text v.version) hversion <|
    h.bind (b := v) (.always rfl trivial)).congr ?_
  rw [nesting_text, and_true, and_iff_right (Nat.zero_le _)]

theorem reads_parcel (v : Versioned Parcel) (h : v.body.Counted) :
    (decoder Parcel.names Parcel.ofFields?).Reads (.fields (v.members Parcel.members)) v :=
  Decoder.reads_record (by decide) (.refl _) fun _ => yieldsIf_ofFields rfl <|
    .always (Parcel.ofFields?_eq h rfl rfl rfl rfl) (Nat.zero_le _)

end Versioned

/-! ## Outcomes -/

namespace Outcome

/-- **An outcome is read among the fields of its mode.** -/
theorem yieldsIf_ofFields (o : Outcome) (h : o.Counted) (version : String) (levels : Nat) :
    YieldsIf (depth o.members ≤ levels)
      (o.mode.ofFields? ⟨true, levels, ("version", .text version) :: o.members⟩) o := by
  cases o with
  | uploaded receipt storeFolder =>
    have hreceipt : Receipt.ofFields? ⟨true, levels, ("version", .text version) ::
        (uploaded receipt storeFolder).members⟩ = some receipt := Receipt.ofFields?_eq h rfl rfl
    refine .always ?_ (Nat.zero_le _)
    rw [mode, Mode.ofFields?, hreceipt]
    rfl
  | processed options report log =>
    refine YieldsIf.congr (yieldsIf_required options.reads ?_ <|
      yieldsIf_required (report.reads h) ?_ <|
      yieldsIf_orElse (gives_texts log) ?_ <| .always rfl trivial) ?_
    all_goals simp [members]
  | packaged parcel =>
    exact .always (congrArg (Option.map packaged) (Parcel.ofFields?_eq h rfl rfl rfl rfl))
      (Nat.zero_le _)
  | converted receipt options report parcel log =>
    obtain ⟨hreceipt, hreport, hparcel⟩ := h
    refine YieldsIf.congr (yieldsIf_required (receipt.reads hreceipt) ?_ <|
      yieldsIf_required options.reads ?_ <|
      yieldsIf_required (report.reads hreport) ?_ <|
      yieldsIf_required (parcel.reads_parcel hparcel) ?_ <|
      yieldsIf_orElse (gives_texts log) ?_ <| .always rfl trivial) ?_
    all_goals simp [members]
  | cleared storeFolder => exact .always rfl (Nat.zero_le _)
  | failed message payload =>
    refine YieldsIf.congr (yieldsIf_nullable (gives_same message Decoder.reads_text nofun) rfl ?_ <|
      yieldsIf_required payload.reads ?_ <| .always rfl trivial) ?_
    all_goals simp [members, List.lookup_append]

/-- The members of an outcome are fields of its mode, each written at most once. -/
theorem names_members (o : Outcome) : (o.members.map (·.1)).Subperm o.mode.names := by
  cases o with
  | uploaded receipt storeFolder =>
    show ["fileName", "sizeBytes", "storeDir"].Subperm ["storeDir", "fileName", "sizeBytes"]
    exact (@List.perm_append_comm _ ["fileName", "sizeBytes"] ["storeDir"]).subperm
  | processed options report log =>
    exact List.Sublist.subperm (names_append (.refl _) (names_omitEmpty ..))
  | packaged parcel => exact .refl _
  | converted receipt options report parcel log =>
    exact List.Sublist.subperm (names_append (.refl _) (names_omitEmpty ..))
  | cleared storeFolder => exact .refl _
  | failed message payload =>
    exact List.Sublist.subperm (names_append (names_omitNone ..) (.refl _))

theorem encoded_members (o : Outcome) (h : o.Counted) : ∀ m ∈ o.members, m.2.Encoded := by
  have hlog : ∀ log : List String, ∀ m ∈ omitEmpty "log" .text log, m.2.Encoded :=
    fun log => encoded_omitEmpty _ fun s _ => encoded_text s
  cases o with
  | uploaded receipt storeFolder =>
    exact encoded_append (receipt.encoded_members h) (encoded_cons (encoded_text _) encoded_nil)
  | processed options report log =>
    exact encoded_append (encoded_cons options.encoded
      (encoded_cons (report.encoded h) encoded_nil)) (hlog log)
  | packaged parcel => exact parcel.encoded_members h
  | converted receipt options report parcel log =>
    obtain ⟨hreceipt, hreport, hparcel⟩ := h
    have hupload := encoded_fields (receipt.encoded_members hreceipt)
    have harchive := encoded_fields (@encoded_cons "version" _ _ (encoded_text parcel.version)
      (parcel.body.encoded_members hparcel))
    exact encoded_append (encoded_cons hupload (encoded_cons options.encoded
      (encoded_cons (report.encoded hreport) (encoded_cons harchive encoded_nil)))) (hlog log)
  | cleared storeFolder => exact encoded_cons (encoded_text _) encoded_nil
  | failed message payload =>
    exact encoded_append (encoded_omitNone _ encoded_text) (encoded_cons payload.encoded encoded_nil)

/-- No outcome nests deeper than four levels. -/
theorem depth_members_le (o : Outcome) : depth o.members ≤ 4 := by
  have hlog : ∀ log : List String, depthOf (listValue? .text log) ≤ 1 :=
    fun log => depthOf_listValue?_le fun s _ => Nat.le_refl 0
  cases o with
  | uploaded receipt storeFolder => exact Nat.zero_le 4
  | processed options report log =>
    have hreport := report.nesting_le
    have hlog := hlog log
    simp only [members, depth_append, depth_cons, depth_nil, depth_omitEmpty,
      options.nesting_toJson]
    omega
  | packaged parcel => exact Nat.zero_le 4
  | converted receipt options report parcel log =>
    have hreport := report.nesting_le
    have hlog := hlog log
    have hreceipt : receipt.toJson.nesting = 1 := rfl
    have hparcel : (Value.fields (parcel.members Parcel.members)).nesting = 1 := rfl
    simp only [members, depth_append, depth_cons, depth_nil, depth_omitEmpty, hreceipt, hparcel,
      options.nesting_toJson]
    omega
  | cleared storeFolder => exact Nat.zero_le 4
  | failed message payload =>
    have hpayload := payload.nesting_le
    have hmessage : depthOf (message.map .text) ≤ 0 := depthOf_map_le fun s => Nat.le_refl 0
    simp only [members, depth_append, depth_cons, depth_nil, depth_omitNone]
    omega

end Outcome

/-! ## Answers -/

namespace Answer

theorem ofName?_name (m : Mode) : Mode.ofName? m.name = some m := by
  cases m <;> decide

/-- The members behind the mode, each written at most once. -/
theorem names_members (a : Answer) :
    ((a.members Outcome.members).map (·.1)).Subperm ("version" :: a.body.mode.names) :=
  (List.subperm_cons "version").2 a.body.names_members

/-- The mode is the only member with its name. -/
theorem splitMode?_toJson (a : Answer) :
    splitMode? a.toJson = some (a.body.mode, .fields (a.members Outcome.members)) := by
  have hmode : "mode" ∉ "version" :: a.body.mode.names := by
    cases a.body.mode <;> decide
  have hothers : ∀ m ∈ (a.members Outcome.members).map fun m => (some m.1, m.2),
      isMode m = false := by
    intro m hm
    obtain ⟨n, hn, rfl⟩ := List.mem_map.1 hm
    have hname : n.1 ≠ "mode" := fun h =>
      hmode (h ▸ a.names_members.subset (List.mem_map_of_mem hn))
    simpa [isMode] using hname
  have hnone := List.filter_eq_nil_iff.2 fun m hm => Bool.eq_false_iff.1 (hothers m hm)
  have hall := List.filter_eq_self.2 fun m hm => Bool.not_eq_eq_eq_not.2 (hothers m hm)
  rw [toJson, Value.fields, List.map_cons, splitMode?, List.filter_cons_of_pos rfl, hnone]
  show (Mode.ofName? a.body.mode.name).map _ = _
  rw [ofName?_name, List.filter_cons_of_neg (by simp [isMode]), hall]
  rfl

/-- What a mode finds in an object with its fields. -/
theorem fields_eq {m : Mode} {ms : List (String × Value)}
    (hms : (ms.map (·.1)).Subperm ("version" :: m.names)) (levels : Nat) :
    m.fields (levels + 1) (.fields ms) = some ⟨true, levels, ms⟩ := by
  have hnames : ("version" :: m.names).Nodup := by cases m <;> decide
  have hnodup : (ms.map (·.1)).Nodup := by
    obtain ⟨names, hperm, hsub⟩ := hms
    exact hperm.nodup_iff.1 (hsub.nodup hnames)
  have hknown : Fields.known ("version" :: m.names) [] (ms.map fun m => (some m.1, m.2)) =
      some ms := Fields.known_fields (fun _ _ => rfl)
    (fun n hn => hms.subset (List.mem_map_of_mem hn)) hnodup
  have hobject : m.fields (levels + 1) (.fields ms) =
      Fields.ofObject ("version" :: m.names) [] (levels + 1) (.fields ms) := by
    cases m <;> rfl
  rw [hobject, Value.fields, Fields.ofObject, hknown, Option.map_some]

theorem encoded (a : Answer) (h : a.body.Counted) : a.toJson.Encoded :=
  encoded_fields (encoded_cons (encoded_text _)
    (encoded_cons (encoded_text _) (a.body.encoded_members h)))

/-- **An answer is read back from its record.** -/
theorem reads (a : Answer) (h : a.body.Counted) : decoder.Reads a.toJson a := by
  refine Decoder.Reads.whole (fun levels => ?_) (a.encoded h).sound
  rw [splitMode?_toJson, Option.bind_eq_bind, Option.bind_some]
  show YieldsIf _ ((a.body.mode.fields levels (.fields (a.members Outcome.members))).bind _) a
  cases levels with
  | zero =>
    have hnone : a.body.mode.fields 0 (.fields (a.members Outcome.members)) = none := by
      cases a.body.mode <;> rfl
    exact ⟨fun h => absurd h (Nat.not_succ_le_zero _), fun _ => by rw [hnone]; rfl⟩
  | succ levels =>
    rw [fields_eq a.names_members, Option.bind_some]
    refine (Versioned.yieldsIf_ofFields rfl (a.body.yieldsIf_ofFields h _ levels)).congr ?_
    rw [toJson, nesting_fields, depth_cons, nesting_text, Versioned.members, depth_cons,
      nesting_text, Nat.zero_max, Nat.zero_max, Nat.add_le_add_iff_right]

theorem nesting_le (a : Answer) : a.toJson.nesting ≤ documentLevels := by
  have hdepth := a.body.depth_members_le
  rw [toJson, nesting_fields, depth_cons, nesting_text, Versioned.members, depth_cons,
    nesting_text, documentLevels]
  omega

/-- Read the answer that a text holds. -/
def read? (text : String) : Option Answer := decode? decoder (parse (Text.Utf8.encode text))

/-- The mode that a text gives. -/
def mode? (text : String) : Option Mode :=
  (parse (Text.Utf8.encode text)).bind fun v => (splitMode? v).map (·.1)

/-- The texts of an answer: those of its record, and what is printed where there is no terminal. -/
def texts (a : Answer) : List String :=
  [a.toJson.compact, a.toJson.pretty, Command.print false .compact a, Command.print false .pretty a]

/-- A text of an answer writes its record; it may have a new line behind it. -/
theorem writes_of_mem_texts {a : Answer} (h : a.toJson.Writable) {text : String}
    (htext : text ∈ a.texts) : ∃ cs ending, (ending = [] ∨ ending = ['\n']) ∧
      Writes cs a.toJson ∧ text = String.ofList (cs ++ ending) := by
  have hcompact := writes_render h
  have hpretty := writes_renderAt 0 _ h
  simp only [texts, List.mem_cons, List.not_mem_nil, or_false] at htext
  rcases htext with rfl | rfl | rfl | rfl
  · exact ⟨_, [], .inl rfl, hcompact, by rw [List.append_nil]; rfl⟩
  · exact ⟨_, [], .inl rfl, hpretty, by rw [List.append_nil]; rfl⟩
  · exact ⟨_, ['\n'], .inr rfl, hcompact, by rw [String.ofList_append]; rfl⟩
  · exact ⟨_, ['\n'], .inr rfl, hpretty, by rw [String.ofList_append]; rfl⟩

/-- **An answer is read back from each of its texts**, and the mode in the text is its own. -/
theorem read_back (a : Answer) (h : a.body.Counted) :
    ∀ text ∈ a.texts, read? text = some a ∧ mode? text = some a.body.mode := by
  intro text htext
  obtain ⟨cs, ending, hending, hwrites, rfl⟩ := writes_of_mem_texts (a.encoded h).writable htext
  constructor
  · rw [read?, hwrites.parse hending, decode?, Option.bind_some]
    exact (a.reads h documentLevels).some a.nesting_le
  · rw [mode?, hwrites.parse hending, Option.bind_some, splitMode?_toJson, Option.map_some]

/-- An answer with everything that an answer may have. -/
def converted : Answer :=
  .of (.converted ⟨"home.qtbridge", 1024⟩ ⟨true, false, true, true⟩
    ⟨false, 2, 3, ["Roboto", "Noto Sans"], some ⟨2, 1, 0, [⟨"Noto Sans", "404 \"Not Found\"\n"⟩]⟩⟩
    ⟨version, "home.zip", ⟨"out/home.zip"⟩, 9, 2048⟩ ["Completed."])

theorem counted_converted : converted.body.Counted := by
  refine ⟨by decide, ⟨by decide, by decide, ?_⟩, by decide, by decide⟩
  intro s hs
  cases hs
  exact ⟨by decide, by decide, by decide⟩

theorem converted_read_back : converted.body.Counted ∧
    ∀ text ∈ converted.texts, read? text = some converted ∧ mode? text = some .convert :=
  ⟨counted_converted, read_back converted counted_converted⟩

end Answer

end QmlExport
