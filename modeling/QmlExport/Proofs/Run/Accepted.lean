import QmlExport.Proofs.Design.Finite
import QmlExport.Proofs.Run.Outcome
import QmlExport.Proofs.Store.Documents
import QmlExport.Proofs.Store.Upload
import QmlExport.Zip.Writer

/-!
# Runs on an upload with a readable document

A run reads the document of the upload, puts it into its record and reads the record again. The
document itself may have 127 levels; in the record it lies one level deeper. **So the run comes
through exactly when the document leaves a level free** (`start_accepted_iff`). When it does not,
the upload is gone by the time this shows.
-/

namespace QmlExport

namespace Run

open Store Json Decimal

/-- A run that came through is done. -/
theorem stage_of_ok {o : Design.Options} {source : Option Fonts.Source} {b b' : Bench}
    {report : Report} (h : (start o source).run b = (.ok report, b')) : b'.stage = .done := by
  -- what stands behind the stages is what sets the last stage
  obtain ⟨_, _, _, h⟩ := run_bind_eq_ok (remainder_of_ok h).2
  obtain ⟨_, _, _, h⟩ := run_bind_eq_ok h
  obtain ⟨_, _, _, h⟩ := run_bind_eq_ok h
  cases h
  rfl

theorem finite_of_documentOf {files : Files} {name : String} {d : Design.Document}
    (h : documentOf files name = .ok d) : d.Finite := by
  unfold documentOf at h
  split at h
  · cases h
  · next bs _ =>
    split at h
    · cases h
    · next d' hread =>
      obtain rfl := Except.ok.inj h
      obtain ⟨v, _, hv⟩ := Option.bind_eq_some_iff.1 hread
      exact Design.Document.only_finite _ v _ hv

section

variable {P : Storage → Prop} (hP : Reliable P) {o : Design.Options}
  {source : Option Fonts.Source} {b b' : Bench} {r : Except Failure Report} {name : String}
  {bytes : Text.Bytes} {files : Files} {d : Design.Document} (hb : P b.storage)
  (hd : b.storage.document = .ok none)
  (hu : b.storage.content .uploadedFile = .ok (some (.upload name bytes)))
  (hz : unzip bytes = .ok files) (hm : documentOf files name = .ok d)
  (ho : o.downloadFonts = false) (hrun : (start o source).run b = (r, b'))

include hP hb hm

/-- What the record of the document is read as, once it has been put. -/
theorem document_accepted :
    (settled (unpacked b.storage files) name files d).document =
      if d.toJson.nesting < documentLevels then .ok (some (.of name (d.mapNumbers reread)))
      else .error .ofRecord := by
  rw [document_settled hP (stays_unpacked hP hb files)]
  exact readBackDocument_of name (finite_of_documentOf hm)

include hd hu hz ho hrun

/-- With a level left the run comes through, and the document is in its record. -/
theorem run_accepted (hlevels : d.toJson.nesting < documentLevels) :
    (∃ report, r = .ok report) ∧ b'.stage = .done ∧
      b'.storage.document = .ok (some (.of name (d.mapNumbers reread))) := by
  have hdocument := document_accepted hP hb hm
  rw [if_pos hlevels] at hdocument
  have hout := (outcome_of_run hP hb hrun).1
  rcases hout.of_prepared (.accepted hd hu hz hm) ho with ⟨f, _, ht⟩ | ⟨report, q, rfl, ht⟩
  · -- the document is in its record, so there is no way for the code to fail
    obtain ⟨_, hcause⟩ := ht.of_error
    rw [hdocument] at hcause
    rcases hcause with h | h <;> cases h
  · obtain ⟨_, _, hcoded⟩ := ht.of_ok
    refine ⟨⟨report, rfl⟩, stage_of_ok hrun, ?_⟩
    rw [hcoded, document_generated hP (stays_settled hP (stays_unpacked hP hb files) name files d),
      hdocument]

/-- Without a level left the run fails over its own record, and the upload is spent. -/
theorem run_refused (hlevels : documentLevels ≤ d.toJson.nesting) :
    r = .error .ofRecord ∧ b'.storage.document = .error .ofRecord ∧
      b'.storage.content .uploadedFile = .ok none := by
  have hdocument := document_accepted hP hb hm
  rw [if_neg (Nat.not_lt.2 hlevels)] at hdocument
  have hout := (outcome_of_run hP hb hrun).1
  rcases hout.of_prepared (.accepted hd hu hz hm) ho with ⟨f, rfl, ht⟩ | ⟨report, q, rfl, ht⟩
  · obtain ⟨hsame, hcause⟩ := ht.of_error
    rw [hdocument] at hcause
    have hf : f = .ofRecord := by
      rcases hcause with h | h
      · exact (Except.error.inj h).symm
      · cases h
    refine ⟨congrArg Except.error hf, hsame ▸ hdocument, ?_⟩
    rw [hsame, content_settled_of_ne hP (stays_unpacked hP hb files) name files d (by decide)
      (by decide), content_unpacked_upload hP hb]
  · obtain ⟨_, hstored, _⟩ := ht.of_ok
    rw [hdocument] at hstored
    cases hstored

end

/-! ## Nested documents -/

/-- A node inside so many others, with nothing written of them but the children. -/
def nestedValue : Nat → Value
  | 0 => .fields []
  | n + 1 => .fields [("children", .array [nestedValue n])]

/-- The node that this is. -/
def nestedNode : Nat → Design.Node
  | 0 => ⟨"", none, none, none, none, none, [], .empty⟩
  | n + 1 => ⟨"", none, none, none, none, none, [nestedNode n], .empty⟩

/-- The document with one such artboard. -/
def nestedDocument (n : Nat) : Design.Document := ⟨[nestedNode n], [], none⟩

/-- The octets of this document. -/
def nestedBytes (n : Nat) : Text.Bytes :=
  Text.Utf8.encode (Value.fields [("artboards", .array [nestedValue n])]).compact

/-- An archive with this document. -/
def nestedArchive (n : Nat) : Text.Bytes := Zip.encode [.file "home.metadata" (nestedBytes n)]

theorem nesting_nestedNode (n : Nat) : (nestedNode n).toJson.nesting = 2 * n + 2 := by
  induction n with
  | zero => rfl
  | succ n ih =>
    have hnode : (nestedNode (n + 1)).toJson.nesting =
        max 0 (max (max (nestedNode n).toJson.nesting 0 + 1) 1) + 1 := rfl
    omega

/-- Written out, a nested document has one level more than its octets. -/
theorem nesting_nestedDocument (n : Nat) : (nestedDocument n).toJson.nesting = 2 * n + 4 := by
  have hdocument : (nestedDocument n).toJson.nesting =
      max (max (nestedNode n).toJson.nesting 0 + 1) 1 + 1 := rfl
  have hnode := nesting_nestedNode n
  omega

theorem writable_nestedValue (n : Nat) : (nestedValue n).Writable := by
  induction n with
  | zero => exact trivial
  | succ n ih => exact ⟨rfl, ⟨ih, trivial⟩, trivial⟩

theorem decoder_nestedValue (n : Nat) {levels : Nat} (h : 2 * n < levels) :
    Design.Node.decoder levels (nestedValue n) = some (nestedNode n) := by
  induction n generalizing levels with
  | zero =>
    obtain ⟨rest, rfl⟩ := Nat.exists_eq_add_of_lt h
    rw [Nat.mul_zero, Nat.zero_add, Design.Node.decoder_succ]
    rfl
  | succ n ih =>
    obtain ⟨rest, rfl⟩ : ∃ rest, levels = rest + 2 := ⟨levels - 2, by omega⟩
    have hdecoder : Design.Node.decoder (rest + 2) (nestedValue (n + 1)) =
        (([nestedValue n].mapM (Design.Node.decoder rest)).bind fun children =>
          some ⟨"", none, none, none, none, none, children, .empty⟩) := rfl
    rw [hdecoder, List.mapM_cons, ih (by omega)]
    rfl

/-- The octets of a document that is not nested too deeply are read. -/
theorem decode_nestedBytes {n : Nat} (h : n ≤ 62) :
    decode? Design.Document.decoder (parse (nestedBytes n)) = some (nestedDocument n) := by
  have hwritable : (Value.fields [("artboards", .array [nestedValue n])]).Writable :=
    ⟨rfl, ⟨writable_nestedValue n, trivial⟩, trivial⟩
  have hdecoder : ∀ v, Design.Document.decoder documentLevels
      (Value.fields [("artboards", .array [v])]) =
        ((Design.Node.decoder 125 v).bind fun n => some ⟨[n], [], none⟩) := by
    intro v
    show (([v].mapM (Design.Node.decoder 125)).bind fun artboards => _) = _
    rw [List.mapM_cons]
    cases Design.Node.decoder 125 v <;> rfl
  rw [nestedBytes, parse_compact _ hwritable, decode?, Option.bind_some, hdecoder,
    decoder_nestedValue n (by omega), Option.bind_some, nestedDocument]

/-- The octets in front of a child, and those behind it. -/
def childOpening : Text.Bytes := [123, 34, 99, 104, 105, 108, 100, 114, 101, 110, 34, 58, 91]
def childClosing : Text.Bytes := [93, 125]

/-- The octets of a nested node. -/
def nestedNodeBytes : Nat → Text.Bytes
  | 0 => [123, 125]
  | n + 1 => childOpening ++ nestedNodeBytes n ++ childClosing

theorem nestedNodeBytes_eq (n : Nat) :
    (nestedValue n).render.flatMap Text.Utf8.encodeChar = nestedNodeBytes n := by
  induction n with
  | zero => rfl
  | succ n ih =>
    have hrender : (nestedValue (n + 1)).render =
        ('{' :: renderText (some "children") ++ [':', '[']) ++ (nestedValue n).render ++
          [']', '}'] := by
      simp [nestedValue, Value.fields, Value.render, renderItems, renderMembers]
    rw [hrender, List.flatMap_append, List.flatMap_append, ih]
    rfl

theorem nestedBytes_eq (n : Nat) : nestedBytes n =
    [123, 34, 97, 114, 116, 98, 111, 97, 114, 100, 115, 34, 58, 91] ++ nestedNodeBytes n ++
      childClosing := by
  have hrender : (Value.fields [("artboards", .array [nestedValue n])]).render =
      ('{' :: renderText (some "artboards") ++ [':', '[']) ++ (nestedValue n).render ++
        [']', '}'] := by
    simp [Value.fields, Value.render, renderItems, renderMembers]
  rw [nestedBytes, Text.Utf8.encode, Value.compact, String.toList_ofList, hrender,
    List.flatMap_append, List.flatMap_append, nestedNodeBytes_eq]
  rfl

theorem unzip_eq {bytes : Text.Bytes} {files : Files}
    (h : (unzip bytes).toOption.map Catalog.entries = some files.entries) :
    unzip bytes = .ok files := by
  cases hunzip : unzip bytes with
  | error f =>
    rw [hunzip] at h
    cases h
  | ok found =>
    rw [hunzip] at h
    exact congrArg Except.ok (Catalog.ext (Option.some.inj h))

set_option maxRecDepth 100000 in
/-- The archives of a document that is not nested and of one that is nested as deep as can be read
hold it, and can be uploaded. -/
theorem unzip_nestedArchive : ∀ n ∈ [0, 62],
    unzip (nestedArchive n) = .ok (.ofList [("home.metadata", nestedBytes n)]) ∧
      (nestedArchive n).length ≤ Upload.defaultLimit := by
  have hentries : ∀ n ∈ [0, 62],
      (unzip (nestedArchive n)).toOption.map Catalog.entries =
        some (Catalog.ofList [("home.metadata", nestedBytes n)]).entries ∧
      (nestedArchive n).length ≤ Upload.defaultLimit := by
    -- the octets stand there as a list, so the kernel has nothing of the printer to run
    simp only [nestedArchive, nestedBytes_eq]
    decide +kernel
  intro n hn
  obtain ⟨hfound, hsize⟩ := hentries n hn
  exact ⟨unzip_eq hfound, hsize⟩

theorem entries_singleton (name : String) (bytes : Text.Bytes) :
    (Catalog.ofList [(name, bytes)]).entries = [(name, bytes)] := rfl

/-- The only document of an archive is taken, whatever its name. -/
theorem pickDocument_singleton (found : String × Text.Bytes) (name : String) :
    pickDocument [found] name = some found := by
  unfold pickDocument
  simp only
  split
  · next d hd => rw [List.mem_singleton.1 (List.mem_of_find?_eq_some hd)]
  · rfl

/-- The document of an archive with nothing else. -/
theorem documentOf_home {bytes : Text.Bytes} {d : Design.Document}
    (hread : decode? Design.Document.decoder (parse bytes) = some d) :
    documentOf (.ofList [("home.metadata", bytes)]) "home.qtbridge" = .ok d := by
  obtain ⟨hname, hdocument⟩ : entryFileName "home.metadata" = "home.metadata" ∧
      (!isImage "home.metadata" && isDocument "home.metadata") = true := by decide +kernel
  have hfound : documentsOf (.ofList [("home.metadata", bytes)]) = [("home.metadata", bytes)] := by
    rw [documentsOf, entries_singleton]
    simp only [List.filterMap_cons, List.filterMap_nil, hname, hdocument, if_true]
  rw [documentOf, hfound, pickDocument_singleton]
  simp only [hread]

theorem documentOf_nested {n : Nat} (h : n ≤ 62) :
    documentOf (.ofList [("home.metadata", nestedBytes n)]) "home.qtbridge" =
      .ok (nestedDocument n) :=
  documentOf_home (decode_nestedBytes h)

end Run

end QmlExport
