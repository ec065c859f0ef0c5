import QmlExport.Proofs.Code.Sheets
import QmlExport.Proofs.Run.Housing
import QmlExport.Proofs.Run.Resumption

/-!
# Font families of a run

What a run tells of font families is a matter of its document alone. `Document.fontFamilies` lists
them: the families of the text nodes, each where it is named first. The exporter gathers this list
while it writes code, whatever the options, and **a run that comes through reports it as it is, and
asks for as many families as there are in it** (`families_told`).

The run reads its document from the store. What comes from an upload has been written there before,
with its numbers printed, but no number has a part in a family.
-/

namespace QmlExport

namespace Design

/-- The font families of a document: those of its text nodes in order, each once. -/
def Document.fontFamilies (d : Document) : List String :=
  (((d.nodes.filterMap (·.metadata.text)).map (·.fontFamily)).filter (· ≠ "")).eraseDups

section

variable (f : Float → Float)

mutual
theorem preorder_mapNumbers (n : Node) :
    (n.mapNumbers f).preorder = n.preorder.map (Node.mapNumbers f) := by
  match n with
  | ⟨name, x, y, width, height, layerIndex, children, m⟩ =>
    rw [Node.mapNumbers, Node.preorder, Node.preorder, preorderAll_mapNumbersOf children,
      List.map_cons, Node.mapNumbers]

theorem preorderAll_mapNumbersOf (ns : List Node) :
    preorderAll (mapNumbersOf f ns) = (preorderAll ns).map (Node.mapNumbers f) := by
  match ns with
  | [] => rfl
  | n :: ns =>
    rw [mapNumbersOf, preorderAll, preorderAll, preorder_mapNumbers n,
      preorderAll_mapNumbersOf ns, List.map_append]
end

theorem Document.nodes_mapNumbers (d : Document) :
    (d.mapNumbers f).nodes = d.nodes.map (Node.mapNumbers f) := by
  rw [nodes, nodes, Document.mapNumbers, preorderAll_mapNumbersOf, List.flatMap_map,
    List.map_append, List.map_flatMap]
  simp only [ArtboardSet.mapNumbers, preorderAll_mapNumbersOf]

/-- Other numbers change no family. -/
theorem Document.fontFamilies_mapNumbers (d : Document) :
    (d.mapNumbers f).fontFamilies = d.fontFamilies := by
  have htext : ∀ n : Node, ((n.mapNumbers f).metadata.text).map (·.fontFamily) =
      n.metadata.text.map (·.fontFamily) := by
    intro n
    cases n with
    | mk name x y width height layerIndex children m =>
      rw [Node.mapNumbers, Metadata.mapNumbers, Option.map_map]
      rfl
  rw [fontFamilies, fontFamilies, nodes_mapNumbers, List.filterMap_map, List.map_filterMap,
    List.map_filterMap]
  simp only [Function.comp_apply, htext]

end

end Design

namespace Code

open Design

/-- The families that an exporter gathers are those of the document. -/
theorem familiesOf_nodes (d : Document) : familiesOf d.nodes = d.fontFamilies := by
  have hnodes : ∀ nodes : List Node, nodes.flatMap familyOf =
      ((nodes.filterMap (·.metadata.text)).map (·.fontFamily)).filter (· ≠ "") := by
    intro nodes
    induction nodes with
    | nil => rfl
    | cons n nodes ih =>
      rw [List.flatMap_cons, ih, List.filterMap_cons, familyOf]
      cases n.metadata.text with
      | none => rfl
      | some t => by_cases ht : t.fontFamily = "" <;> simp [ht]
  rw [familiesOf, foldl_addNew_nil, hnodes, Document.fontFamilies]

end Code

namespace Run

open Store

variable {o : Design.Options} {source : Option Fonts.Source} {b b' : Bench} {report : Report}

/-! ## What a run asks for -/

/-- However a family fares, as many are requested as before. -/
theorem leads_processFamily (source : Fonts.Source) (summary : FontSummary) (family : String)
    (n : Nat) :
    Leads (fun _ : Bench => summary.requested = n) (processFamily source summary family)
      fun after _ => after.requested = n := by
  have hdownload : Leads (fun _ : Bench => summary.requested = n)
      (downloadReported source summary family) fun after _ => after.requested = n := by
    refine .bind .still fun _ => .bind .still fun fetched => ?_
    cases fetched with
    | ok _ => exact .bind .still fun _ => .pure fun _ h => h
    | error _ => exact .bind .still fun _ => .pure fun _ h => h
  have hrest : ∀ stored : Bool, Leads (fun _ : Bench => summary.requested = n)
      (if stored then do
          Job.say ("Skipping " ++ family ++ ", already downloaded.")
          Pure.pure { summary with skipped := summary.skipped + 1 }
        else downloadReported source summary family) fun after _ => after.requested = n := by
    intro stored
    cases stored with
    | false => exact hdownload
    | true => exact .bind .still fun _ => .pure fun _ h => h
  refine .bind .still fun asked => ?_
  -- a store that cannot answer only has the family downloaded again
  cases asked with
  | ok _ => exact .bind .still hrest
  | error _ => exact .bind .still hrest

theorem leads_processFamilies (source : Fonts.Source) (total : Nat) (families : List String)
    (done : Nat) (summary : FontSummary) (n : Nat) :
    Leads (fun _ : Bench => summary.requested = n)
      (processFamilies source total done summary families) fun after _ => after.requested = n := by
  induction families generalizing done summary with
  | nil => exact .pure fun _ h => h
  | cons family families ih =>
    refine .bind (leads_processFamily source summary family n) fun after => ?_
    exact .bind .still fun _ => ih (done + 1) after

/-- **As many families are requested as are named.** -/
theorem leads_processFonts (source : Fonts.Source) (families : List String) :
    Leads (fun _ : Bench => True) (processFonts source families)
      fun summary _ => summary.requested = families.length := by
  refine .bind .still fun _ => .bind .still fun _ => ?_
  dsimp only
  split
  · next hnone => exact .bind .still fun _ => .bind .still fun _ => .pure fun _ _ => hnone.symm
  · -- the number stands in the summary from the start, and each family leaves it alone
    refine .bind (Q := fun summary _ => summary.requested = families.length) ?_ fun summary => ?_
    · exact .weaken (fun _ _ => rfl) (leads_processFamilies source _ families 0 _ _)
    · exact .bind .still fun _ => .pure fun _ h => h

/-- What a report says of the fonts, if there are so many families. -/
structure Asked (o : Design.Options) (count : Nat) (fonts : Option FontSummary) : Prop where
  requested : o.downloadFonts = true → ∃ summary, fonts = some summary ∧ summary.requested = count
  unwanted : o.downloadFonts = false → fonts = none

theorem leads_fontsIfWanted (hsource : o.downloadFonts = true → source ≠ none)
    (families : List String) :
    Leads (fun _ : Bench => True) (fontsIfWanted o source families)
      fun fonts _ => Asked o families.length fonts := by
  unfold fontsIfWanted
  cases ho : o.downloadFonts with
  | false =>
    exact .pure fun _ _ => ⟨fun hon => absurd (ho.symm.trans hon) (by decide), fun _ => rfl⟩
  | true =>
    cases source with
    | none => exact absurd rfl (hsource ho)
    | some source =>
      refine .bind (leads_processFonts source families) fun summary => .pure fun _ h => ?_
      exact ⟨fun _ => ⟨summary, rfl, h⟩, fun hoff => absurd (ho.symm.trans hoff) (by decide)⟩

/-- Code is generated for the document of the store, which is there. -/
theorem leads_transform_families (o : Design.Options) (s : Storage) :
    Leads (fun b : Bench => b.storage = s) (transform o) fun q _ =>
      ∃ r, s.document = .ok (some r) ∧ q.2 = (Code.generate o r.document).2 := by
  refine .bind (leads_enter (P := (· = s)) _) fun _ => ?_
  refine .bind (leads_progress (P := (· = s)) _) fun _ => ?_
  refine .bind (leads_onStorage (P := (· = s)) leads_getDocument) fun found => ?_
  -- what was found is a fact about the storage of the start, whatever is written from now on
  refine .weaken (P := fun _ => s.document = .ok found) (fun b hb => hb.1 ▸ hb.2) ?_
  cases found with
  | none => exact .throw _
  | some r =>
    refine .bind .still fun _ => .bind .still fun _ => .bind .still fun _ => ?_
    dsimp only
    split
    · exact .bind .still fun _ => .bind .still fun _ => .pure fun _ h => ⟨r, h, rfl⟩
    · refine .bind .still fun _ => ?_
      exact .bind .still fun _ => .bind .still fun _ => .pure fun _ h => ⟨r, h, rfl⟩

/-! ## What a run reports -/

/-- A run on this bench is about this document: it is the one in the record once the run has got at
it. -/
def About (b : Bench) (d : Design.Document) : Prop :=
  ∃ p c r, prepare.run b = (.ok p, c) ∧ c.storage.document = .ok (some r) ∧ r.document = d

/-- What a report says of the font families of a document. -/
structure FamiliesTold (o : Design.Options) (d : Design.Document) (report : Report) : Prop where
  families : report.fontFamilies = d.fontFamilies
  fonts : Asked o d.fontFamilies.length report.fonts

theorem familiesTold_of_run (h : (start o source).run b = (.ok report, b')) :
    ∃ d, About b d ∧ FamiliesTold o d report := by
  obtain ⟨hsource, hrest⟩ := remainder_of_ok h
  obtain ⟨⟨resumed, images⟩, c, hprepare, hrest⟩ := run_bind_eq_ok hrest
  obtain ⟨⟨count, families⟩, u, htransform, hrest⟩ := run_bind_eq_ok hrest
  obtain ⟨fonts, v, hfonts, hrest⟩ := run_bind_eq_ok hrest
  obtain ⟨r, hd, hfamilies⟩ := leads_transform_families o c.storage c rfl _ u htransform
  have hasked := leads_fontsIfWanted hsource families u trivial fonts v hfonts
  have hsame : families = r.document.fontFamilies := by
    rw [← Code.familiesOf_nodes, ← Code.families_generate o]
    exact hfamilies
  rw [hsame] at hrest hasked
  cases hrest
  exact ⟨r.document, ⟨_, c, r, hprepare, hd, rfl⟩, rfl, hasked⟩

/-- The document that a run on this storage gets at: it is stored, or else it comes from the
upload. -/
inductive Concerns (s : Storage) : Design.Document → Prop
  | stored {r} (hd : s.document = .ok (some r)) : Concerns s r.document
  | uploaded {name bytes files d} (hd : s.document = .ok none)
    (hu : s.content .uploadedFile = .ok (some (.upload name bytes)))
    (hz : unzip bytes = .ok files) (hm : documentOf files name = .ok d) : Concerns s d

/-- What a run is about has the families of the document that it gets at. -/
theorem fontFamilies_of_about {P : Storage → Prop} (hP : Reliable P) (hb : P b.storage)
    {d d' : Design.Document} (h : Concerns b.storage d) (habout : About b d') :
    d'.fontFamilies = d.fontFamilies := by
  obtain ⟨p, c, r, hprepare, hr, rfl⟩ := habout
  obtain ⟨p', t, hprepares, hends⟩ := prepares_prepare hP hb
  obtain ⟨c', hrun, hc⟩ := hends b rfl
  obtain ⟨rfl, rfl⟩ := Prod.mk.inj (hrun.symm.trans hprepare)
  rw [hc] at hr
  cases h with
  | stored hd =>
    cases hprepares with
    | resumed =>
      rw [hd] at hr
      cases hr
      rfl
    | accepted hnone =>
      rw [hd] at hnone
      cases hnone
  | uploaded hd hu hz hm =>
    obtain ⟨_, rfl⟩ := hprepares.unique (.accepted hd hu hz hm)
    rw [document_accepted hP hb hm] at hr
    split at hr
    · cases hr
      exact Design.Document.fontFamilies_mapNumbers _ _
    · cases hr

/-- A node with a text in this font family. -/
def lettering (family : String) (children : List Design.Node) : Design.Node :=
  ⟨"", none, none, none, none, none, children, { Design.Metadata.empty with
    text := some ⟨"", "", family, "", none, none, none, none, none⟩ }⟩

/-- A document with one family named twice, another one, and a text without a family. -/
def lettered : Design.Document :=
  ⟨[lettering "Roboto" [lettering "" [], lettering "Inter" [], lettering "Roboto" []]], [], none⟩

/-- A storage with nothing but this document. -/
def letteredStorage : Storage := Storage.fresh.withDocument (.of "home.qtbridge" lettered)

end Run

end QmlExport
