import QmlExport.Proofs.Disk.Items
import QmlExport.Proofs.Text.Lines

/-!
# Paths below a root

A path below another one is its text behind the text of the other (`toList_join`), so that its
segments follow one another. **Where the root leads, there the paths below it begin**
(`resolve_join`); the empty root stands for where relative paths begin.

Of a path with a directory in front of a file name, `parent` gives back the directory
(`parent_join`), and a new extension stands in the name alone (`withExtension_join`).
-/

namespace QmlExport

open Text

namespace Path

/-! ## Joined paths -/

/-- The text with which the paths below some text begin. -/
def below (cs : List Char) : List Char := if endsWith ['/'] cs then cs else cs ++ ['/']

/-- The text with which the paths below a path begin. -/
def front (p : Path) : List Char := if p.text.isEmpty then [] else below p.text.toList

theorem endsWith_slash_iff {cs : List Char} : endsWith ['/'] cs = true ↔ ∃ bs, cs = bs ++ ['/'] := by
  unfold endsWith
  rw [List.isSuffixOf_iff_suffix]
  exact ⟨fun ⟨bs, h⟩ => ⟨bs, h.symm⟩, fun ⟨bs, h⟩ => ⟨bs, h.symm⟩⟩

/-- A relative path below another one is written behind it. -/
theorem toList_join (p : Path) {q : Path} (hq : q.isAbsolute = false) :
    (p.join q).text.toList = p.front ++ q.text.toList := by
  unfold join front below
  rw [hq, Bool.false_or]
  cases p.text.isEmpty with
  | true => rfl
  | false =>
    cases endsWith ['/'] p.text.toList with
    | true => exact String.toList_append
    | false =>
      show (p.text ++ "/" ++ q.text).toList = p.text.toList ++ ['/'] ++ q.text.toList
      rw [String.toList_append, String.toList_append]
      rfl

theorem join_ne_empty (p : Path) {q : Path} (hq : q.isAbsolute = false) (hne : q.text ≠ "") :
    (p.join q).text ≠ "" := by
  intro hempty
  have hchars := toList_join p hq
  rw [hempty] at hchars
  exact hne (String.toList_eq_nil_iff.1 (List.append_eq_nil_iff.1 hchars.symm).2)

theorem ext {p q : Path} (h : p.text.toList = q.text.toList) : p = q := by
  cases p
  cases q
  exact congrArg Path.mk (String.toList_inj.1 h)

/-- What lies below some text is cut where the text ends. -/
theorem pieces_below (cs qs : List Char) : ∃ lead,
    pieces (· == '/') (below cs ++ qs) = lead ++ pieces (· == '/') qs ∧
      (pieces (· == '/') cs = lead ∨ pieces (· == '/') cs = lead ++ [[]]) := by
  unfold below
  split
  · next hend =>
    obtain ⟨bs, rfl⟩ := endsWith_slash_iff.1 hend
    refine ⟨pieces (· == '/') bs, ?_, .inr ?_⟩
    · rw [List.append_assoc]
      exact pieces_append rfl bs qs
    · exact pieces_append rfl bs []
  · refine ⟨pieces (· == '/') cs, ?_, .inl rfl⟩
    rw [List.append_assoc]
    exact pieces_append rfl cs qs

/-- What lies below a text begins as the text does. -/
theorem head?_below {cs : List Char} (h : cs ≠ []) (qs : List Char) :
    (below cs ++ qs).head? = cs.head? := by
  obtain ⟨c, cs, rfl⟩ := List.exists_cons_of_ne_nil h
  unfold below
  split <;> rfl

/-! ## Directories and file names -/

/-- A path that can stand in front of a slash: it names something and does not end in one. -/
structure Bare (p : Path) : Prop where
  nonempty : p.text ≠ ""
  ends : endsWith ['/'] p.text.toList = false

/-- A name without slashes. -/
def Single (s : String) : Prop := '/' ∉ s.toList

instance (s : String) : Decidable (Single s) := inferInstanceAs (Decidable ('/' ∉ s.toList))

theorem Single.segments {s : String} (h : Single s) : segments ⟨s⟩ = [s] := by
  rw [Path.segments, pieces_of_not_mem h, List.map_singleton, String.ofList_toList]

theorem isAbsolute_eq_false {s : String} (h : Single s) : isAbsolute ⟨s⟩ = false := by
  unfold isAbsolute
  cases hs : s.toList with
  | nil => rfl
  | cons c cs =>
    have hc : c ≠ '/' := by
      rintro rfl
      exact h (hs ▸ List.mem_cons_self)
    simpa using hc

theorem Bare.front {p : Path} (h : p.Bare) : p.front = p.text.toList ++ ['/'] := by
  have hne : p.text.isEmpty = false := by simpa using h.nonempty
  rw [Path.front, hne, if_neg Bool.false_ne_true, below, h.ends, if_neg Bool.false_ne_true]

theorem Bare.withoutSlashes {p : Path} (h : p.Bare) : p.withoutSlashes = p := by
  have hnil : p.text.toList ≠ [] := by simpa using h.nonempty
  obtain ⟨cs, c, hs⟩ : ∃ cs c, p.text.toList = cs ++ [c] :=
    ⟨_, _, (List.dropLast_append_getLast hnil).symm⟩
  have hc : c ≠ '/' := by
    rintro rfl
    have hends := endsWith_slash_iff.2 ⟨cs, hs⟩
    rw [h.ends] at hends
    cases hends
  apply ext
  rw [Path.withoutSlashes, String.toList_ofList, hs, List.reverse_append, List.reverse_singleton,
    List.singleton_append, List.dropWhile_cons_of_neg (by simpa using hc), List.reverse_cons,
    List.reverse_reverse]

theorem Single.bare_join (p : Path) {s : String} (h : Single s) (hne : s ≠ "") :
    (p.join ⟨s⟩).Bare := by
  have hchars := toList_join p (isAbsolute_eq_false h)
  obtain ⟨cs, c, hs⟩ : ∃ cs c, s.toList = cs ++ [c] := by
    have hnil : s.toList ≠ [] := by simpa using hne
    exact ⟨_, _, (List.dropLast_append_getLast hnil).symm⟩
  constructor
  · exact join_ne_empty p (isAbsolute_eq_false h) hne
  · rw [← Bool.not_eq_true, endsWith_slash_iff]
    rintro ⟨bs, hbs⟩
    rw [hchars, hs, ← List.append_assoc] at hbs
    have hlast : c = '/' := by simpa using (List.append_inj' hbs rfl).2
    exact h (hs ▸ hlast ▸ List.mem_append_right _ List.mem_cons_self)

theorem isAbsolute_pair {a : String} (ha : Single a) (hne : a ≠ "") (b : String) :
    isAbsolute ⟨a ++ "/" ++ b⟩ = false := by
  have hfirst := isAbsolute_eq_false ha
  have hnil : a.toList ≠ [] := by simpa using hne
  unfold isAbsolute at hfirst ⊢
  rw [String.toList_append, String.toList_append, List.append_assoc,
    List.head?_append_of_ne_nil _ hnil]
  exact hfirst

/-- Two steps down are one step to a path of two segments. -/
theorem join_join (p : Path) {a b : String} (ha : Single a) (hne : a ≠ "") (hb : Single b) :
    (p.join ⟨a⟩).join ⟨b⟩ = p.join ⟨a ++ "/" ++ b⟩ := by
  apply ext
  rw [toList_join _ (isAbsolute_eq_false hb), (ha.bare_join p hne).front,
    toList_join p (isAbsolute_eq_false ha), toList_join p (isAbsolute_pair ha hne b)]
  simp

theorem segments_pair {a b : String} (ha : Single a) (hb : Single b) :
    segments ⟨a ++ "/" ++ b⟩ = [a, b] := by
  have hsplit : (a ++ "/" ++ b).toList = a.toList ++ '/' :: b.toList := by simp
  rw [segments, hsplit, pieces_append rfl, pieces_of_not_mem ha, pieces_of_not_mem hb]
  simp

theorem Bare.segments_join {p : Path} (h : p.Bare) {s : String} (hs : Single s) :
    (p.join ⟨s⟩).segments = p.segments ++ [s] := by
  rw [segments, toList_join p (isAbsolute_eq_false hs), h.front, List.append_assoc]
  show List.map _ (pieces _ (p.text.toList ++ '/' :: s.toList)) = _
  rw [pieces_append rfl, List.map_append, pieces_of_not_mem hs]
  simp [segments]

theorem toList_join_ofList (ps : List (List Char)) :
    (Text.join "/" (ps.map String.ofList)).toList = glue '/' ps := by
  induction ps with
  | nil => rfl
  | cons p ps ih =>
    cases ps with
    | nil => simp [Text.join, glue]
    | cons q qs =>
      rw [List.map_cons, List.map_cons, Text.join, glue, String.toList_append,
        String.toList_append, String.toList_ofList]
      rw [List.map_cons] at ih
      rw [ih]
      simp

/-- The segments make the path again. -/
theorem ofSegments_segments (p : Path) : ofSegments p.segments = p := by
  apply ext
  rw [ofSegments, segments, toList_join_ofList, glue_pieces]

theorem Bare.ofSegments_append {p : Path} (h : p.Bare) {s : String} (hs : Single s) :
    ofSegments (p.segments ++ [s]) = p.join ⟨s⟩ := by
  rw [← h.segments_join hs, ofSegments_segments]

/-- A segment that stays when a path is shortened. -/
theorem remainders_cons {s : String} (hne : s ≠ "") (hdot : s ≠ ".") (ss : List String) :
    remainders (s :: ss) = (s :: ss) :: remainders ss := by
  rw [remainders, if_neg]
  simp [hne, hdot]

/-- **The directory that a file lies in.** -/
theorem parent_join (p : Path) {a b : String} (ha : Single a) (hb : Single b)
    (ha' : Disk.Plain a) (hb' : Disk.Plain b) :
    ((p.join ⟨a⟩).join ⟨b⟩).parent = p.join ⟨a⟩ := by
  have hbare := ha.bare_join p ha'.nonempty
  have hlast : ∃ lead, (p.join ⟨a⟩).segments = lead ++ [a] := by
    unfold segments
    rw [toList_join p (isAbsolute_eq_false ha)]
    have hpieces : pieces (· == '/') a.toList = [a.toList] := pieces_of_not_mem ha
    unfold front
    split
    · exact ⟨[], by simp [hpieces]⟩
    · obtain ⟨lead, hlead, _⟩ := pieces_below p.text.toList a.toList
      exact ⟨lead.map String.ofList, by rw [hlead, hpieces]; simp⟩
  obtain ⟨lead, hlead⟩ := hlast
  have habove : above ((p.join ⟨a⟩).join ⟨b⟩).segments =
      (a :: lead.reverse) :: remainders lead.reverse := by
    have hreverse : (lead ++ [a] ++ [b]).reverse = b :: a :: lead.reverse := by simp
    rw [above, hbare.segments_join hb, hlead, hreverse, remainders_cons hb'.nonempty hb'.stays,
      remainders_cons ha'.nonempty ha'.stays, List.tail_cons]
  unfold parent
  rw [habove]
  show ofSegments (a :: lead.reverse).reverse = _
  rw [List.reverse_cons, List.reverse_reverse, ← hlead, ofSegments_segments]

/-! ## Extensions -/

theorem cut_of_not_mem {name : String} (h : '.' ∉ name.toList) : cut name = (name, none) := by
  have hdot : name.toList.contains '.' = false := by simpa using h
  unfold cut
  simp only [hdot, Bool.not_false, Bool.true_or, if_true]

/-- A name is cut at its last dot, if anything stands before it. -/
theorem cut_append {name : String} {stem ext : List Char} (hname : name.toList = stem ++ '.' :: ext)
    (hext : '.' ∉ ext) :
    cut name = if stem = [] then (name, none) else (String.ofList stem, some (String.ofList ext)) := by
  have hbehind : lastPiece (· == '.') name.toList = ext := by
    rw [hname, lastPiece_append rfl, lastPiece_of_forall_not (beq_of_not_mem hext)]
  have hbefore : name.toList.take (name.toList.length - ext.length - 1) = stem := by
    have hlength : name.toList.length - ext.length - 1 = stem.length := by
      rw [hname, List.length_append, List.length_cons]
      omega
    rw [hlength, hname, List.take_left]
  have hdot : name.toList.contains '.' = true := by
    rw [hname]
    simp
  unfold cut
  simp only [hbehind, hbefore, hdot, Bool.not_true, Bool.false_or, List.isEmpty_iff]

/-- The extension of a name stands behind its last dot. -/
theorem cut_eq_some_iff {name ext : String} :
    (cut name).2 = some ext ↔
      ∃ stem, name.toList = stem ++ '.' :: ext.toList ∧ stem ≠ [] ∧ '.' ∉ ext.toList := by
  constructor
  · intro h
    by_cases hdot : '.' ∈ name.toList
    · obtain ⟨stem, behind, hname, hbehind⟩ : ∃ stem behind, name.toList = stem ++ '.' :: behind ∧
          '.' ∉ behind := by
        obtain ⟨hnot, hname | ⟨stem, sep, hsep, hname⟩⟩ :=
          lastPiece_eq_iff.1 (rfl : lastPiece (· == '.') name.toList = _)
        · rw [hname] at hdot
          exact absurd (hnot '.' hdot) (by decide)
        · refine ⟨stem, _, beq_iff_eq.1 hsep ▸ hname, fun hmem => ?_⟩
          exact absurd (hnot '.' hmem) (by decide)
      rw [cut_append hname hbehind] at h
      split at h
      · cases h
      · next hstem =>
        obtain rfl : String.ofList behind = ext := Option.some.inj h
        rw [String.toList_ofList]
        exact ⟨stem, hname, hstem, hbehind⟩
    · rw [cut_of_not_mem hdot] at h
      cases h
  · rintro ⟨stem, hname, hstem, hext⟩
    rw [cut_append hname hext, if_neg hstem, String.ofList_toList]

/-- A name without slashes has the extension that stands behind its last dot. -/
theorem Single.extension?_eq_some_iff {name ext : String} (h : Single name) (hext : ext ≠ "") :
    extension? ⟨name⟩ = some ext ↔
      ∃ stem, name.toList = stem ++ '.' :: ext.toList ∧ stem ≠ [] ∧ '.' ∉ ext.toList := by
  rw [← cut_eq_some_iff]
  unfold extension? fileName? reversed
  rw [h.segments]
  -- the names that are passed over have no extension
  by_cases hdots : name = "" ∨ name = "." ∨ name = ".."
  · have hnone : (cut name).2 = none ∨ (cut name).2 = some "" := by
      rcases hdots with rfl | rfl | rfl <;> decide
    constructor
    · rcases hdots with rfl | rfl | rfl <;> exact nofun
    · intro hsome
      rw [hsome] at hnone
      rcases hnone with hnone | hnone
      · cases hnone
      · exact absurd (Option.some.inj hnone) hext
  · simp only [not_or] at hdots
    simp [hdots]

/-- **A new extension stands in the file name alone.** -/
theorem Bare.withExtension_join {p : Path} (h : p.Bare) {s : String} (hs : Single s)
    (hs' : Disk.Plain s) (ext : String) :
    (p.join ⟨s⟩).withExtension ext = ofSegments (p.segments ++
      [if (cut s).1 = "." then ".." else (cut s).1 ++ "." ++ ext]) := by
  have hreversed : (p.join ⟨s⟩).reversed = s :: p.segments.reverse := by
    rw [reversed, h.segments_join hs, List.reverse_append]
    exact List.dropWhile_cons_of_neg (by simp [hs'.nonempty, hs'.stays])
  have hname : (p.join ⟨s⟩).fileName? = some s := by
    unfold fileName?
    rw [hreversed]
    exact if_neg hs'.up
  unfold withExtension
  rw [hname, hreversed]
  simp

end Path

namespace Disk

/-! ## Where paths lead -/

/-- A disk begins at the top of all paths or at an absolute path that does not end in a slash. -/
def Based (d : Disk) : Prop :=
  d.top = "" ∨ (Path.isAbsolute ⟨d.top⟩ = true ∧ endsWith ['/'] d.top.toList = false)

/-- Where the paths below a root begin. -/
def base (d : Disk) (root : Path) : Except Fault Location :=
  if root.text.isEmpty then .ok d.here else d.resolve root

section

variable {d : Disk} {root q : Path} {l : Location}

/-- What stands behind the top in a path to the disk. -/
def Behind (d : Disk) (rest : List Char) : Prop :=
  rest.head? = some '/' ∨ (rest = [] ∧ d.top ≠ "")

/-- A path that begins with the top is followed from there. -/
theorem steps?_top {rest : List Char} (hrest : d.Behind rest)
    (hq : q.text.toList = d.top.toList ++ rest) :
    d.steps? q = some ([], Path.segments ⟨String.ofList rest⟩) := by
  unfold steps?
  simp only [hq, List.drop_left]
  rw [if_pos]
  rcases hrest with hhead | ⟨rfl, htop⟩
  · simp [hhead]
  · simp [htop]

/-- A path that can be followed begins with the top, or it is relative. -/
theorem steps?_eq_some {start : Location} {segments : List String}
    (h : d.steps? q = some (start, segments)) :
    (∃ rest, d.Behind rest ∧ q.text.toList = d.top.toList ++ rest ∧ start = [] ∧
      segments = Path.segments ⟨String.ofList rest⟩) ∨
    (q.isAbsolute = false ∧ start = d.here ∧ segments = q.segments) := by
  unfold steps? at h
  simp only at h
  split at h
  · next htop =>
    left
    simp only [Bool.and_eq_true, Bool.or_eq_true, beq_iff_eq, List.isPrefixOf_iff_prefix] at htop
    obtain ⟨⟨rest, hrest⟩, hbehind⟩ := htop
    rw [← hrest, List.drop_left] at hbehind h
    obtain ⟨rfl, rfl⟩ := Prod.mk.inj (Option.some.inj h)
    refine ⟨rest, ?_, hrest.symm, rfl, rfl⟩
    refine hbehind.imp id ?_
    rintro ⟨hall, hne⟩
    refine ⟨by simpa using hall, by simpa using hne⟩
  · split at h
    · cases h
    · next hrelative =>
      obtain ⟨rfl, rfl⟩ := Prod.mk.inj (Option.some.inj h)
      exact .inr ⟨by simpa using hrelative, rfl, rfl⟩

/-- Behind the top a path has no segments but its own. -/
theorem mem_segments_of_steps? {start : Location} {segments : List String}
    (h : d.steps? q = some (start, segments)) {s : String} (hs : s ∈ segments) (hne : s ≠ "") :
    s ∈ q.segments := by
  rcases steps?_eq_some h with ⟨rest, hrest, htop, _, rfl⟩ | ⟨_, _, rfl⟩
  · unfold Path.segments at hs ⊢
    rw [String.toList_ofList] at hs
    rcases hrest with hhead | ⟨rfl, _⟩
    · obtain ⟨c, rest, rfl⟩ := List.exists_cons_of_ne_nil (l := rest) (by rintro rfl; cases hhead)
      obtain rfl : c = '/' := by simpa using hhead
      rw [htop, pieces_append rfl, List.map_append]
      refine List.mem_append_right _ ?_
      rw [pieces, if_pos (by rfl), List.map_cons, List.mem_cons] at hs
      exact hs.resolve_left hne
    · exact absurd (List.mem_singleton.1 hs) hne
  · exact hs

/-- A relative path does not begin at the top. -/
theorem steps?_relative (hb : d.Based) (hq : q.isAbsolute = false) (hne : q.text ≠ "") :
    d.steps? q = some (d.here, q.segments) := by
  have hnil : q.text.toList ≠ [] := by simpa using hne
  unfold Path.isAbsolute at hq
  unfold steps?
  simp only
  rw [if_neg, if_neg]
  · unfold Path.isAbsolute
    rw [hq]
    exact Bool.false_ne_true
  · rcases hb with htop | ⟨htop, _⟩
    · rw [htop]
      simpa [hnil] using hq
    · unfold Path.isAbsolute at htop
      cases hcs : d.top.toList with
      | nil => rw [hcs] at htop; cases htop
      | cons c cs =>
        -- a path that begins with the top begins with a slash
        rw [hcs] at htop
        obtain rfl : c = '/' := by simpa using htop
        cases hqs : q.text.toList with
        | nil => exact absurd hqs hnil
        | cons e es =>
          rw [hqs] at hq
          have he : e ≠ '/' := by simpa using hq
          simp [List.isPrefixOf, he.symm]

theorem below_append {rest : List Char} (hb : d.Based) (hrest : d.Behind rest) :
    Path.below (d.top.toList ++ rest) = d.top.toList ++ Path.below rest := by
  unfold Path.below
  rcases hrest with hhead | ⟨rfl, htop⟩
  · obtain ⟨bs, c, rfl⟩ : ∃ bs c, rest = bs ++ [c] := by
      have hne : rest ≠ [] := by rintro rfl; cases hhead
      exact ⟨_, _, (List.dropLast_append_getLast hne).symm⟩
    have hsame : endsWith ['/'] (d.top.toList ++ (bs ++ [c])) = endsWith ['/'] (bs ++ [c]) := by
      rw [Bool.eq_iff_iff, Path.endsWith_slash_iff, Path.endsWith_slash_iff]
      constructor
      · rintro ⟨as, has⟩
        rw [← List.append_assoc] at has
        exact ⟨bs, by rw [(List.append_inj' has rfl).2]⟩
      · rintro ⟨as, has⟩
        exact ⟨d.top.toList ++ as, by rw [has, List.append_assoc]⟩
    rw [hsame]
    split
    · rfl
    · exact List.append_assoc _ _ _
  · have hends : endsWith ['/'] d.top.toList = false := by
      rcases hb with h | ⟨_, h⟩
      · exact absurd h htop
      · exact h
    have hnil : endsWith ['/'] [] = false := rfl
    simp [hends, hnil]

/-- Below a root the segments of a path follow those of the root. -/
theorem steps?_join (hb : d.Based) (hroot : root.text ≠ "") (hq : q.isAbsolute = false)
    (hne : q.text ≠ "") {start : Location} {segments : List String} (hs : d.steps? root = some (start, segments)) :
    ∃ lead, d.steps? (root.join q) = some (start, lead ++ q.segments) ∧
      (segments = lead ∨ segments = lead ++ [""]) := by
  have hfront : root.front = Path.below root.text.toList := if_neg (by simpa using hroot)
  have hjoin := Path.toList_join root hq
  rw [hfront] at hjoin
  rcases steps?_eq_some hs with ⟨rest, hrest, htop, rfl, rfl⟩ | ⟨hrelative, rfl, rfl⟩
  · rw [htop, below_append hb hrest, List.append_assoc] at hjoin
    have hbehind : d.Behind (Path.below rest ++ q.text.toList) := by
      left
      rcases hrest with hhead | ⟨rfl, _⟩
      · have hne : rest ≠ [] := by rintro rfl; cases hhead
        exact (Path.head?_below hne _).trans hhead
      · rfl
    obtain ⟨lead, hpieces, hlead⟩ := Path.pieces_below rest q.text.toList
    refine ⟨lead.map String.ofList, ?_, ?_⟩
    · rw [steps?_top hbehind hjoin, Path.segments, String.toList_ofList, hpieces, List.map_append]
      rfl
    · rw [Path.segments, String.toList_ofList]
      refine hlead.imp (fun h => by rw [h]) fun h => ?_
      rw [h, List.map_append]
      rfl
  · obtain ⟨lead, hpieces, hlead⟩ := Path.pieces_below root.text.toList q.text.toList
    have hhead : (root.join q).text.toList.head? = root.text.toList.head? := by
      rw [hjoin]
      exact Path.head?_below (by simpa using hroot) _
    have habsolute : (root.join q).isAbsolute = false := by
      unfold Path.isAbsolute at hrelative ⊢
      rw [hhead, hrelative]
    refine ⟨lead.map String.ofList, ?_, ?_⟩
    · rw [steps?_relative hb habsolute (Path.join_ne_empty root hq hne), Path.segments, hjoin, hpieces, List.map_append]
      rfl
    · rw [Path.segments]
      refine hlead.imp (fun h => by rw [h]) fun h => ?_
      rw [h, List.map_append]
      rfl

/-- A path that leads somewhere was followed there. -/
theorem resolve_eq_ok (h : d.resolve q = .ok l) :
    isPath q ∧ q.text ≠ "" ∧ ∃ start segments, d.steps? q = some (start, segments) ∧
      segments.foldlM d.enter start = .ok l := by
  unfold resolve at h
  split at h
  · cases h
  · next hpath =>
    split at h
    · cases h
    · next hempty =>
      cases hs : d.steps? q with
      | none => rw [hs] at h; cases h
      | some way =>
        obtain ⟨start, segments⟩ := way
        rw [hs] at h
        exact ⟨by simpa using hpath, by simpa using hempty, start, segments, rfl, h⟩

theorem resolve_of_steps {start : Location} {segments : List String} (hpath : isPath q)
    (hne : q.text ≠ "") (hs : d.steps? q = some (start, segments)) :
    d.resolve q = segments.foldlM d.enter start := by
  unfold resolve
  rw [hpath, hs, if_neg (by simp), if_neg (by simpa using hne)]

/-- Paths begin at the same place, and with the same segments, on disks that begin alike. -/
theorem steps?_congr {d' : Disk} (htop : d'.top = d.top) (hhere : d'.here = d.here) (q : Path) :
    d'.steps? q = d.steps? q := by
  unfold steps?
  rw [htop, hhere]

theorem Based.congr {d' : Disk} (hb : d.Based) (htop : d'.top = d.top) : d'.Based := by
  unfold Based at *
  rwa [htop]

/-- Where the ways are the same on another disk, there a path leads to the same place. -/
theorem resolve_congr {d' : Disk} (htop : d'.top = d.top) (hhere : d'.here = d.here)
    (hfollow : ∀ start segments, d.steps? q = some (start, segments) →
      segments.foldlM d.enter start = .ok l → segments.foldlM d'.enter start = .ok l)
    (h : d.resolve q = .ok l) : d'.resolve q = .ok l := by
  obtain ⟨hpath, hne, start, segments, hs, hd⟩ := resolve_eq_ok h
  rw [resolve_of_steps hpath hne ((steps?_congr htop hhere q).trans hs)]
  exact hfollow start segments hs hd

/-- Also a root leads to the same place there. -/
theorem base_congr {d' : Disk} (htop : d'.top = d.top) (hhere : d'.here = d.here)
    (hfollow : ∀ start segments, d.steps? root = some (start, segments) →
      segments.foldlM d.enter start = .ok l → segments.foldlM d'.enter start = .ok l)
    (h : d.base root = .ok l) : d'.base root = .ok l := by
  unfold base at *
  split at h
  · next hempty => rw [if_pos hempty, hhere, h]
  · next hempty =>
    rw [if_neg hempty]
    exact resolve_congr htop hhere hfollow h

/-- A root leads to one place on all disks that begin alike. -/
theorem base_unique {d' : Disk} {m : Location} (htop : d'.top = d.top) (hhere : d'.here = d.here)
    (h : d.base root = .ok l) (h' : d'.base root = .ok m) : l = m := by
  unfold base at h h'
  split at h
  · next hempty =>
    rw [if_pos hempty, hhere] at h'
    exact Except.ok.inj (h.symm.trans h')
  · next hempty =>
    rw [if_neg hempty] at h'
    obtain ⟨_, _, start, segments, hs, hfollow⟩ := resolve_eq_ok h
    obtain ⟨_, _, start', segments', hs', hfollow'⟩ := resolve_eq_ok h'
    rw [steps?_congr htop hhere, hs] at hs'
    cases hs'
    exact follow_unique hfollow hfollow'

/-- An empty segment at the end leads nowhere else. -/
theorem follow_lead {start : Location} {segments lead : List String}
    (hlead : segments = lead ∨ segments = lead ++ [""])
    (h : segments.foldlM d.enter start = .ok l) : lead.foldlM d.enter start = .ok l := by
  rcases hlead with rfl | rfl
  · exact h
  · obtain ⟨k, hlead, hlast⟩ := follow_concat.1 h
    obtain ⟨hdirectory, _⟩ := enter_eq_ok hlast
    rw [enter_empty hdirectory] at hlast
    exact hlead.trans hlast

/-- **Where the root leads, there the paths below it begin.** -/
theorem resolve_join (hb : d.Based) (hbase : d.base root = .ok l) (hq : q.isAbsolute = false)
    (hne : q.text ≠ "") :
    d.resolve (root.join q) =
      if isPath (root.join q) then q.segments.foldlM d.enter l else .error .refused := by
  unfold resolve
  cases hpath : isPath (root.join q) with
  | false => rfl
  | true =>
    simp only [Bool.not_true, Bool.false_eq_true, if_false, if_true]
    by_cases hroot : root.text = ""
    · have hjoin : root.join q = q := by
        unfold Path.join
        rw [hq, hroot]
        rfl
      have hl : l = d.here := by
        unfold base at hbase
        rw [hroot] at hbase
        exact (Except.ok.inj hbase).symm
      rw [hjoin, if_neg (by simpa using hne), steps?_relative hb hq hne, hl]
    · rw [base, if_neg (by simpa using hroot)] at hbase
      obtain ⟨_, _, start, segments, hsteps, hfollow⟩ := resolve_eq_ok hbase
      obtain ⟨lead, hjoin, hlead⟩ := steps?_join hb hroot hq hne hsteps
      rw [if_neg (by simpa using Path.join_ne_empty root hq hne), hjoin]
      show (lead ++ q.segments).foldlM d.enter start = _
      rw [List.foldlM_append, follow_lead hlead hfollow]
      rfl

end

end Disk

end QmlExport
