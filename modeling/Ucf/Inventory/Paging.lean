import Ucf.Inventory.Pages
import Mathlib.Data.List.Chain
import Ucf.Onboarding.Bundle

/-! Putting the pages of an inventory together. The sequences that are accepted for an inventory are
exactly the ways of cutting its records into pages. -/

namespace Ucf

variable [Unicodedata] [Hashlib]

/-! ### The assembly -/

/-- The local variables of the loop over the pages. -/
structure Assembly where
  expectedCursor : Option InventoryCursor
  terminal : Bool
  records : List InventoryRecord
  previousKey : Option (String ×ₗ InventoryRecordId)

/-- The body of the loop over a page's records -/
def appendRecord (state : Assembly) (record : InventoryRecord) : Except String Assembly := do
  let key := recordKey record
  require (∀ previous, state.previousKey = some previous → ¬ key ≤ previous)
    "inventory pages overlap or are not globally ordered"
  pure { state with previousKey := some key, records := state.records ++ [record] }

/-- The body of the loop over the pages -/
def appendPage (first : InventoryPage) (state : Assembly) (page : InventoryPage) :
    Except String Assembly := do
  require (state.terminal = false) "inventory page appears after terminal page"
  require (page.requestCursor = state.expectedCursor)
    "inventory page request cursor breaks the page chain"
  require (page.header = first.header) "inventory page headers do not match"
  let state ← page.records.items.foldlM appendRecord state
  pure { state with expectedCursor := page.nextCursor, terminal := page.complete }

/-- `InventorySnapshot(...)` with the coordinates of a page -/
def InventoryPage.snapshotWith (first : InventoryPage) (records : List InventoryRecord) :
    Except String InventorySnapshot :=
  if hlength : records.length ≤ maxInventoryRecords then
    match hvalid : validateSnapshot first.sourceRevision first.producer first.capability
      first.appliedPolicy first.coverage records with
    | .ok () => .ok ⟨first.subjectUri, first.sourceRevision, first.producer, first.capability,
        first.appliedPolicy, first.coverage, ⟨records, Nat.zero_le _, hlength⟩, hvalid⟩
    | .error e => .error e
  else .error "too_long"

/-- `assemble_inventory_pages` -/
def assembleInventoryPages (pages : List InventoryPage) (recordLimit : Int) :
    Except String InventorySnapshot := do
  require (1 ≤ recordLimit ∧ recordLimit ≤ maxPageRecords)
    "inventory request record limit is invalid"
  match pages with
  | [] => throw "inventory page sequence must not be empty"
  | first :: _ =>
    require (pages.length ≤ maxInventoryPages) "inventory page sequence exceeds the page limit"
    require ((pages.map fun page => page.records.items.length).sum ≤ maxInventoryRecords)
      "inventory page sequence exceeds the record limit"
    require (∀ page ∈ pages, page.records.items.length ≤ recordLimit)
      "inventory page exceeds its request record limit"
    let state ← pages.foldlM (appendPage first) ⟨none, false, [], none⟩
    require (state.terminal = true ∧ state.expectedCursor = none)
      "inventory page sequence is incomplete"
    let snapshot ← first.snapshotWith state.records
    require (canonicalInventoryDigest snapshot = first.snapshotDigest)
      "assembled inventory snapshot digest does not match its pages"
    pure snapshot

/-! ### The pages of an inventory -/

/-- The cursor after a piece of an inventory's records. -/
def IsCursorAfter (s : InventorySnapshot) (piece : List InventoryRecord)
    (cursor : InventoryCursor) : Prop :=
  cursor.snapshotDigest = canonicalInventoryDigest s ∧
    piece.getLast?.map (fun record => (record.kind, record.id)) = some (cursor.afterKind, cursor.afterId)

/-- A page with the coordinates of an inventory, a piece of its records and given cursors. -/
structure IsPageOf (s : InventorySnapshot) (before : Option InventoryCursor)
    (piece : List InventoryRecord) (next : Option InventoryCursor) (page : InventoryPage) :
    Prop where
  header : page.header = s.header
  request : page.requestCursor = before
  records : page.records.items = piece
  nextCursor : page.nextCursor = next
  complete : page.complete = next.isNone

/-- The pages of an inventory for consecutive pieces of its records, with cursors that chain them. -/
def IsPaging (s : InventorySnapshot) : Option InventoryCursor → List (List InventoryRecord) →
    List InventoryPage → Prop
  | before, [piece], [page] => IsPageOf s before piece none page
  | before, piece :: next :: pieces, page :: pages => ∃ cursor, IsCursorAfter s piece cursor ∧
      IsPageOf s before piece (some cursor) page ∧
        IsPaging s (some cursor) (next :: pieces) pages
  | _, _, _ => False

/-! ### The loops -/

/-- The previous key is that of the last record. -/
def Assembly.Consistent (state : Assembly) : Prop :=
  state.previousKey = state.records.getLast?.map recordKey

omit [Hashlib] in
theorem appendRecords_eq_ok {state final : Assembly} {items : List InventoryRecord}
    (hconsistent : state.Consistent) (hsorted : SortedKeys recordKey state.records) :
    items.foldlM appendRecord state = .ok final ↔
      SortedKeys recordKey (state.records ++ items) ∧
        final = { state with
          previousKey := (state.records ++ items).getLast?.map recordKey
          records := state.records ++ items } := by
  induction items generalizing state with
  | nil =>
    have hself : { state with
        previousKey := (state.records ++ []).getLast?.map recordKey
        records := state.records ++ [] } = state := by
      rw [List.append_nil, ← hconsistent]
    rw [hself, List.append_nil, List.foldlM_nil, pure_eq_ok, Except.ok.injEq]
    exact ⟨fun h => ⟨hsorted, h.symm⟩, fun h => h.2.symm⟩
  | cons record items ih =>
    have hstep : (∀ previous, state.previousKey = some previous → ¬ recordKey record ≤ previous) ↔
        SortedKeys recordKey (state.records ++ [record]) := by
      rw [hconsistent, sortedKeys_concat]
      simp only [Option.map_eq_some_iff, not_le, forall_exists_index, and_imp,
        forall_apply_eq_imp_iff₂, hsorted, true_and]
    simp only [List.foldlM_cons, appendRecord, bind_eq_ok, require_eq_ok, hstep, pure_eq_ok,
      Except.ok.injEq]
    have happend : state.records ++ record :: items = (state.records ++ [record]) ++ items := by
      simp
    constructor
    · rintro ⟨next, ⟨_, hnext, rfl⟩, hrest⟩
      rw [ih (by simp [Assembly.Consistent]) hnext] at hrest
      rw [happend]
      exact hrest
    · rintro ⟨hall, hfinal⟩
      rw [happend] at hall hfinal
      have hnext : SortedKeys recordKey (state.records ++ [record]) :=
        (List.pairwise_append.mp hall).1
      refine ⟨_, ⟨(), hnext, rfl⟩, ?_⟩
      rw [ih (by simp [Assembly.Consistent]) hnext]
      exact ⟨hall, hfinal⟩

/-- What a turn of the loop over the pages does. -/
theorem appendPage_eq_ok {first page : InventoryPage} {state next : Assembly}
    (hconsistent : state.Consistent) (hsorted : SortedKeys recordKey state.records) :
    appendPage first state page = .ok next ↔
      state.terminal = false ∧ page.requestCursor = state.expectedCursor ∧
        page.header = first.header ∧
        SortedKeys recordKey (state.records ++ page.records.items) ∧
        next = ⟨page.nextCursor, page.complete, state.records ++ page.records.items,
          (state.records ++ page.records.items).getLast?.map recordKey⟩ := by
  simp only [appendPage, bind_eq_ok, require_eq_ok, pure_eq_ok, Except.ok.injEq,
    appendRecords_eq_ok hconsistent hsorted]
  constructor
  · rintro ⟨_, hterminal, _, hrequest, _, hheader, _, ⟨hall, rfl⟩, rfl⟩
    exact ⟨hterminal, hrequest, hheader, hall, rfl⟩
  · rintro ⟨hterminal, hrequest, hheader, hall, rfl⟩
    exact ⟨(), hterminal, (), hrequest, (), hheader, _, ⟨hall, rfl⟩, rfl⟩

/-- Pages that follow each other, from a cursor to the end of the inventory. -/
def IsChain (header : PageHeader) : Option InventoryCursor → List InventoryPage → Prop
  | _, [] => False
  | before, page :: pages => page.requestCursor = before ∧ page.header = header ∧
      match pages with
      | [] => page.complete = true ∧ page.nextCursor = none
      | _ :: _ => page.complete = false ∧ IsChain header page.nextCursor pages

theorem appendPages_eq_ok {first page : InventoryPage} {pages : List InventoryPage}
    {state final : Assembly} (hconsistent : state.Consistent)
    (hsorted : SortedKeys recordKey state.records) (hterminal : state.terminal = false) :
    ((page :: pages).foldlM (appendPage first) state = .ok final ∧
        final.terminal = true ∧ final.expectedCursor = none) ↔
      IsChain first.header state.expectedCursor (page :: pages) ∧
        SortedKeys recordKey
          (state.records ++ (page :: pages).flatMap fun page => page.records.items) ∧
        final = ⟨none, true,
          state.records ++ (page :: pages).flatMap fun page => page.records.items,
          (state.records ++ (page :: pages).flatMap fun page => page.records.items).getLast?.map
            recordKey⟩ := by
  induction pages generalizing page state with
  | nil =>
    simp only [List.foldlM_cons, List.foldlM_nil, bind_eq_ok, pure_eq_ok, Except.ok.injEq,
      appendPage_eq_ok hconsistent hsorted, IsChain, List.flatMap_cons, List.flatMap_nil,
      List.append_nil]
    constructor
    · rintro ⟨⟨_, ⟨-, hrequest, hheader, hall, rfl⟩, rfl⟩, hcomplete, hnext⟩
      simp only at hcomplete hnext
      rw [hcomplete, hnext]
      exact ⟨⟨hrequest, hheader, rfl, rfl⟩, hall, rfl⟩
    · rintro ⟨⟨hrequest, hheader, hcomplete, hnext⟩, hall, rfl⟩
      refine ⟨⟨_, ⟨hterminal, hrequest, hheader, hall, rfl⟩, ?_⟩, rfl, rfl⟩
      rw [hcomplete, hnext]
  | cons next pages ih =>
    rw [List.foldlM_cons, List.flatMap_cons, ← List.append_assoc]
    simp only [bind_eq_ok, appendPage_eq_ok hconsistent hsorted]
    have hnext : Assembly.Consistent ⟨page.nextCursor, page.complete,
        state.records ++ page.records.items,
        (state.records ++ page.records.items).getLast?.map recordKey⟩ := rfl
    constructor
    · rintro ⟨⟨middle, ⟨-, hrequest, hheader, hall, rfl⟩, hrest⟩, hfinal⟩
      have hcomplete : page.complete = false := by
        rw [List.foldlM_cons, bind_eq_ok] at hrest
        obtain ⟨_, hstep, -⟩ := hrest
        exact ((appendPage_eq_ok hnext hall).mp hstep).1
      obtain ⟨hchain, hsorted', hfinal'⟩ := (ih hnext hall hcomplete).mp ⟨hrest, hfinal⟩
      exact ⟨⟨hrequest, hheader, hcomplete, hchain⟩, hsorted', hfinal'⟩
    · rintro ⟨⟨hrequest, hheader, hcomplete, hchain⟩, hsorted', hfinal'⟩
      have hall : SortedKeys recordKey (state.records ++ page.records.items) :=
        (List.pairwise_append.mp hsorted').1
      obtain ⟨hrest, hfinal⟩ := (ih hnext hall hcomplete).mpr ⟨hchain, hsorted', hfinal'⟩
      exact ⟨⟨_, ⟨hterminal, hrequest, hheader, hall, rfl⟩, hrest⟩, hfinal⟩

/-! ### What is accepted -/

theorem snapshotWith_eq_ok {first : InventoryPage} {records : List InventoryRecord}
    {s : InventorySnapshot} (hdigest : canonicalInventoryDigest s = first.snapshotDigest) :
    first.snapshotWith records = .ok s ↔ first.header = s.header ∧ s.records.items = records := by
  constructor
  · intro h
    rw [InventoryPage.snapshotWith] at h
    split at h
    · split at h
      · cases h
        rw [InventorySnapshot.header, hdigest]
        exact ⟨rfl, rfl⟩
      · cases h
    · cases h
  · rintro ⟨hheader, hrecords⟩
    cases s with
    | mk uri revision producer capability policy coverage items valid =>
      cases items with
      | mk items lower upper =>
        simp only [InventoryPage.header, InventorySnapshot.header, PageHeader.mk.injEq] at hheader
        obtain ⟨rfl, rfl, -, rfl, rfl, rfl, rfl⟩ := hheader
        simp only at hrecords
        subst hrecords
        rw [InventoryPage.snapshotWith, dif_pos upper]
        split
        · rfl
        · rename_i hvalid
          rw [valid] at hvalid
          cases hvalid

theorem length_le_of_flatMap {pages : List InventoryPage} :
    pages.length ≤ (pages.flatMap fun page => page.records.items).length := by
  induction pages with
  | nil => simp
  | cons page pages ih =>
    have hpage := page.records.lower_le
    rw [List.flatMap_cons, List.length_append, List.length_cons]
    omega

/-- A sequence of pages is accepted for an inventory exactly when the pages chain under its header
and have its records, with no more in a page than was asked for. -/
theorem assembleInventoryPages_eq_ok {pages : List InventoryPage} {recordLimit : Int}
    {s : InventorySnapshot} :
    assembleInventoryPages pages recordLimit = .ok s ↔
      (1 ≤ recordLimit ∧ recordLimit ≤ maxPageRecords) ∧
        (∀ page ∈ pages, page.records.items.length ≤ recordLimit) ∧
        (pages.flatMap fun page => page.records.items) = s.records.items ∧
        IsChain s.header none pages := by
  cases pages with
  | nil => simp [assembleInventoryPages, IsChain]
  | cons first rest =>
    have hempty : Assembly.Consistent ⟨none, false, [], none⟩ := rfl
    have hloop := fun final => @appendPages_eq_ok _ _ first first rest _ final hempty
      List.Pairwise.nil rfl
    simp only [List.nil_append] at hloop
    simp only [assembleInventoryPages, bind_eq_ok, require_eq_ok, pure_eq_ok, Except.ok.injEq]
    constructor
    · rintro ⟨_, hlimit, _, -, _, -, _, hlengths, final, hfold, _, hterminal, snapshot, hsnapshot,
        _, hdigest, rfl⟩
      obtain ⟨hchain, -, rfl⟩ := (hloop final).mp ⟨hfold, hterminal⟩
      obtain ⟨hheader, hrecords⟩ := (snapshotWith_eq_ok hdigest).mp hsnapshot
      rw [hheader] at hchain
      exact ⟨hlimit, hlengths, hrecords.symm, hchain⟩
    · rintro ⟨hlimit, hlengths, hrecords, hchain⟩
      have hheader : first.header = s.header := hchain.2.1
      have hdigest : canonicalInventoryDigest s = first.snapshotDigest :=
        (congrArg PageHeader.snapshotDigest hheader).symm
      have hcount := s.records.le_upper
      rw [← hrecords] at hcount
      rw [← hheader] at hchain
      have hsorted := s.sortedKeys
      rw [← hrecords] at hsorted
      obtain ⟨hfold, hterminal⟩ := (hloop _).mpr ⟨hchain, hsorted, rfl⟩
      refine ⟨(), hlimit, (), length_le_of_flatMap.trans hcount, (), ?_, (), hlengths, _, hfold, (),
        hterminal, s, (snapshotWith_eq_ok hdigest).mpr ⟨hheader, hrecords.symm⟩, (), hdigest, rfl⟩
      rw [← List.length_flatMap]
      exact hcount

/-- A page's next cursor is the one after its records. -/
theorem InventoryPage.isCursorAfter {page : InventoryPage} {s : InventorySnapshot}
    {cursor : InventoryCursor} (hheader : page.header = s.header)
    (hcursor : page.nextCursor = some cursor) : IsCursorAfter s page.records.items cursor := by
  obtain ⟨last, hlast⟩ := Option.ne_none_iff_exists'.mp
    (mt List.getLast?_eq_none_iff.mp page.records_ne_nil)
  obtain ⟨hdigest, hkind, hid⟩ := page.validPage.next_last cursor hcursor last hlast
  refine ⟨hdigest.trans (congrArg PageHeader.snapshotDigest hheader), ?_⟩
  rw [hlast, hkind, hid]
  rfl

theorem isPaging_of_isChain {s : InventorySnapshot} {pages : List InventoryPage}
    {before : Option InventoryCursor} (h : IsChain s.header before pages) :
    IsPaging s before (pages.map fun page => page.records.items) pages := by
  induction pages generalizing before with
  | nil => exact h
  | cons page pages ih =>
    obtain ⟨hrequest, hheader, hrest⟩ := h
    cases pages with
    | nil => exact ⟨hheader, hrequest, rfl, hrest.2, by rw [hrest.1]; rfl⟩
    | cons next pages =>
      obtain ⟨hcomplete, hchain⟩ := hrest
      have hcursor : page.nextCursor ≠ none := by
        intro hnone
        have hisComplete := page.validPage.isComplete
        rw [hnone, hcomplete] at hisComplete
        cases hisComplete
      obtain ⟨cursor, hcursor⟩ := Option.ne_none_iff_exists'.mp hcursor
      rw [hcursor] at hchain
      exact ⟨cursor, page.isCursorAfter hheader hcursor,
        ⟨hheader, hrequest, rfl, hcursor, hcomplete⟩, ih hchain⟩

theorem isChain_of_isPaging {s : InventorySnapshot} {pieces : List (List InventoryRecord)}
    {pages : List InventoryPage} {before : Option InventoryCursor}
    (h : IsPaging s before pieces pages) :
    IsChain s.header before pages ∧ pages.map (fun page => page.records.items) = pieces := by
  induction pieces generalizing before pages with
  | nil => cases h
  | cons piece pieces ih =>
    cases pages with
    | nil => cases pieces <;> cases h
    | cons page pages =>
      cases pieces with
      | nil =>
        cases pages with
        | nil => exact ⟨⟨h.request, h.header, h.complete, h.nextCursor⟩, by simp [h.records]⟩
        | cons => cases h
      | cons next pieces =>
        obtain ⟨cursor, -, hpage, hrest⟩ := h
        obtain ⟨hchain, hpieces⟩ := ih hrest
        cases pages with
        | nil => cases hchain
        | cons next' pages =>
          refine ⟨⟨hpage.request, hpage.header, hpage.complete, ?_⟩, ?_⟩
          · rw [hpage.nextCursor]
            exact hchain
          · rw [List.map_cons, hpieces, hpage.records]

/-! ### Cutting an inventory into pages -/

/-- Any piece of an inventory's records makes a page. -/
theorem exists_page {s : InventorySnapshot} {earlier piece later : List InventoryRecord}
    {before next : Option InventoryCursor}
    (hrecords : earlier ++ piece ++ later = s.records.items) (hne : piece ≠ [])
    (hlength : piece.length ≤ maxPageRecords)
    (hbefore : ∀ cursor, before = some cursor → IsCursorAfter s earlier cursor)
    (hnext : ∀ cursor, next = some cursor → IsCursorAfter s piece cursor) :
    ∃ page, IsPageOf s before piece next page := by
  have hsorted := s.sortedKeys
  rw [← hrecords, SortedKeys, List.pairwise_append, List.pairwise_append] at hsorted
  obtain ⟨⟨-, hpiece, hearlier⟩, -, -⟩ := hsorted
  have hvalid : ValidPage (canonicalInventoryDigest s) s.capability s.coverage before piece next
      next.isNone :=
    { header := s.validatePageHeader_eq_ok
      ids := fun record hrecord => validateRecordId_of_mem (by
        rw [← hrecords]
        simp [hrecord])
      sorted := hpiece
      isComplete := rfl
      request_digest := fun cursor hcursor => (hbefore cursor hcursor).1
      advances := fun cursor hcursor first hfirst => by
        obtain ⟨last, hlast, hcoordinates⟩ := Option.map_eq_some_iff.mp (hbefore cursor hcursor).2
        rw [List.head?_map, Option.map_eq_some_iff] at hfirst
        obtain ⟨record, hrecord, rfl⟩ := hfirst
        have hlt := hearlier last (List.mem_of_getLast? hlast) record (List.mem_of_head? hrecord)
        rw [Prod.mk.injEq] at hcoordinates
        rw [InventoryCursor.key, ← hcoordinates.1, ← hcoordinates.2]
        exact hlt
      next_last := fun cursor hcursor last hlast => by
        obtain ⟨hdigest, hcoordinates⟩ := hnext cursor hcursor
        rw [hlast, Option.map_some, Option.some.injEq, Prod.mk.injEq] at hcoordinates
        exact ⟨hdigest, hcoordinates.1.symm, hcoordinates.2.symm⟩ }
  exact ⟨⟨s.subjectUri, s.sourceRevision, canonicalInventoryDigest s, s.producer, s.capability,
    s.appliedPolicy, s.coverage, before, ⟨piece, List.length_pos_iff.mpr hne, hlength⟩, next,
    next.isNone, validatePage_eq_ok.mpr hvalid⟩, rfl, rfl, rfl, rfl, rfl⟩

/-- The cursor after a piece of an inventory's records. -/
theorem exists_cursorAfter {s : InventorySnapshot} {piece : List InventoryRecord} (hne : piece ≠ [])
    (hrecords : ∀ record ∈ piece, record ∈ s.records.items) :
    ∃ cursor, IsCursorAfter s piece cursor := by
  obtain ⟨last, hlast⟩ := Option.ne_none_iff_exists'.mp (mt List.getLast?_eq_none_iff.mp hne)
  have hprefix := recordPrefix_of_validateRecordId
    (validateRecordId_of_mem (hrecords last (List.mem_of_getLast? hlast)))
  refine ⟨⟨canonicalInventoryDigest s, last.kind, last.id, hprefix⟩, rfl, ?_⟩
  rw [hlast]
  rfl

theorem exists_paging {s : InventorySnapshot} {earlier : List InventoryRecord}
    {pieces : List (List InventoryRecord)} {before : Option InventoryCursor}
    (hrecords : earlier ++ pieces.flatten = s.records.items) (hpieces : pieces ≠ [])
    (hne : ∀ piece ∈ pieces, piece ≠ [] ∧ piece.length ≤ maxPageRecords)
    (hbefore : ∀ cursor, before = some cursor → IsCursorAfter s earlier cursor) :
    ∃ pages, IsPaging s before pieces pages := by
  induction pieces generalizing earlier before with
  | nil => exact absurd rfl hpieces
  | cons piece pieces ih =>
    rw [List.forall_mem_cons] at hne
    obtain ⟨⟨hpiece, hlength⟩, hne⟩ := hne
    rw [List.flatten_cons, ← List.append_assoc] at hrecords
    cases pieces with
    | nil =>
      have hnone : ∀ cursor, (none : Option InventoryCursor) = some cursor →
          IsCursorAfter s piece cursor := nofun
      obtain ⟨page, hpage⟩ := exists_page hrecords hpiece hlength hbefore hnone
      exact ⟨[page], hpage⟩
    | cons next pieces =>
      obtain ⟨cursor, hcursor⟩ := exists_cursorAfter (s := s) hpiece fun record hrecord => by
        rw [← hrecords]
        simp [hrecord]
      have hnext : ∀ cursor', some cursor = some cursor' → IsCursorAfter s piece cursor' :=
        fun _ heq => Option.some.inj heq ▸ hcursor
      obtain ⟨page, hpage⟩ := exists_page hrecords hpiece hlength hbefore hnext
      have hafter : ∀ cursor', some cursor = some cursor' →
          IsCursorAfter s (earlier ++ piece) cursor' := by
        intro cursor' heq
        obtain ⟨hdigest, hlast⟩ := hnext cursor' heq
        refine ⟨hdigest, ?_⟩
        rw [List.getLast?_append_of_ne_nil _ hpiece]
        exact hlast
      obtain ⟨pages, hpages⟩ := ih hrecords (by simp) hne hafter
      exact ⟨page :: pages, cursor, hcursor, hpage, hpages⟩

/-! ### Sequences made of accepted pages -/

/-- The position of a cursor; a request without a cursor is at the start. -/
def cursorPosition (cursor : Option InventoryCursor) : WithBot (String ×ₗ InventoryRecordId) :=
  cursor.map InventoryCursor.key

omit [Unicodedata] [Hashlib] in
@[simp] theorem cursorPosition_none : cursorPosition none = ⊥ := rfl

omit [Unicodedata] [Hashlib] in
@[simp] theorem cursorPosition_some (cursor : InventoryCursor) :
    cursorPosition (some cursor) = cursor.key := rfl

/-- A page moves on. -/
theorem InventoryPage.position_lt {page : InventoryPage} {cursor : InventoryCursor}
    (hcursor : page.nextCursor = some cursor) :
    cursorPosition page.requestCursor < cursorPosition (some cursor) := by
  have hvalid := page.validPage
  obtain ⟨last, hlast⟩ := Option.ne_none_iff_exists'.mp
    (mt List.getLast?_eq_none_iff.mp page.records_ne_nil)
  obtain ⟨-, hkind, hid⟩ := hvalid.next_last cursor hcursor last hlast
  have hkey : cursor.key = recordKey last := by
    rw [InventoryCursor.key, hkind, hid]
    rfl
  rw [cursorPosition_some, hkey]
  cases hrequest : page.requestCursor with
  | none => exact WithBot.bot_lt_coe _
  | some request =>
    rw [cursorPosition_some, WithBot.coe_lt_coe]
    cases hrecords : page.records.items with
    | nil => exact absurd hrecords page.records_ne_nil
    | cons first rest =>
      have hsorted := hvalid.sorted
      have hlt := hvalid.advances request hrequest (recordKey first) (by rw [hrecords]; rfl)
      rw [hrecords] at hsorted hlast
      rcases List.mem_cons.mp (List.mem_of_getLast? hlast) with rfl | hmem
      · exact hlt
      · exact hlt.trans (List.rel_of_pairwise_cons hsorted hmem)

theorem IsChain.positions {header : PageHeader} {pages : List InventoryPage}
    {before : Option InventoryCursor} (h : IsChain header before pages) :
    (pages.map fun page => cursorPosition page.requestCursor).Pairwise (· < ·) ∧
      ∀ page ∈ pages, cursorPosition before ≤ cursorPosition page.requestCursor := by
  induction pages generalizing before with
  | nil => cases h
  | cons page pages ih =>
    obtain ⟨hrequest, -, hrest⟩ := h
    cases pages with
    | nil => simp [hrequest]
    | cons next pages =>
      obtain ⟨hcomplete, hchain⟩ := hrest
      obtain ⟨hpairwise, hle⟩ := ih hchain
      have hlt : cursorPosition page.requestCursor < cursorPosition page.nextCursor := by
        cases hcursor : page.nextCursor with
        | none =>
          have hisComplete := page.validPage.isComplete
          rw [hcursor, hcomplete] at hisComplete
          cases hisComplete
        | some cursor => exact page.position_lt hcursor
      rw [List.map_cons, List.pairwise_cons, ← hrequest]
      constructor
      · refine ⟨fun position hposition => ?_, hpairwise⟩
        obtain ⟨page', hpage', rfl⟩ := List.mem_map.mp hposition
        exact hlt.trans_le (hle page' hpage')
      · intro page' hpage'
        rcases List.mem_cons.mp hpage' with rfl | hpage'
        · exact le_rfl
        · exact hlt.le.trans (hle page' hpage')

/-- In an accepted sequence a page is determined by the cursor that it answers. -/
theorem IsChain.eq_of_requestCursor {header : PageHeader} {pages : List InventoryPage}
    {before : Option InventoryCursor} (h : IsChain header before pages) :
    ∀ page ∈ pages, ∀ page' ∈ pages, page.requestCursor = page'.requestCursor → page = page' := by
  intro page hpage page' hpage' heq
  have hnodup : (pages.map fun page => cursorPosition page.requestCursor).Nodup :=
    h.positions.1.imp ne_of_lt
  refine List.inj_on_of_nodup_map hnodup hpage hpage' ?_
  simp only [heq]

/-- A sequence that follows the cursors of accepted pages is the accepted sequence. -/
theorem IsChain.eq_of_subset {header header' : PageHeader} {all pages pages' : List InventoryPage}
    (hinj : ∀ page ∈ all, ∀ page' ∈ all, page.requestCursor = page'.requestCursor → page = page')
    {before : Option InventoryCursor} (h : IsChain header before pages)
    (h' : IsChain header' before pages') (hsub : pages ⊆ all) (hsub' : pages' ⊆ all) :
    pages' = pages := by
  induction pages generalizing before pages' with
  | nil => cases h
  | cons page pages ih =>
    cases pages' with
    | nil => cases h'
    | cons page' pages' =>
      obtain ⟨hrequest, -, hrest⟩ := h
      obtain ⟨hrequest', -, hrest'⟩ := h'
      rw [List.cons_subset] at hsub hsub'
      have hpage : page' = page :=
        hinj page' hsub'.1 page hsub.1 (hrequest'.trans hrequest.symm)
      subst hpage
      cases pages with
      | nil =>
        cases pages' with
        | nil => rfl
        | cons => exact absurd (hrest.1.symm.trans hrest'.1) (by simp)
      | cons next pages =>
        cases pages' with
        | nil => exact absurd (hrest'.1.symm.trans hrest.1) (by simp)
        | cons next' pages' => rw [ih hrest.2 hrest'.2 hsub.2 hsub'.2]

/-- What is hashed for the digests of two inventories. -/
def snapshotPayloads (s s' : InventorySnapshot) : Set Payload :=
  {.canonical (modelDump s), .canonical (modelDump s')}

theorem eq_of_digest_eq {s s' : InventorySnapshot}
    (hsha : Set.InjOn Hashlib.sha256 (snapshotPayloads s s'))
    (h : canonicalInventoryDigest s = canonicalInventoryDigest s') : s = s' := by
  have hpayload := hsha (Set.mem_insert _ _) (Set.mem_insert_of_mem _ rfl) (Digest.mk.inj h)
  exact modelDump_injective (by rw [Payload.canonical.inj hpayload])

theorem IsChain.header_eq {header : PageHeader} {pages : List InventoryPage}
    {before : Option InventoryCursor} (h : IsChain header before pages) :
    ∀ page ∈ pages, page.header = header := by
  induction pages generalizing before with
  | nil => cases h
  | cons page pages ih =>
    obtain ⟨-, hheader, hrest⟩ := h
    rw [List.forall_mem_cons]
    cases pages with
    | nil => exact ⟨hheader, by simp⟩
    | cons next pages => exact ⟨hheader, ih hrest.2⟩

theorem snapshotDigest_of_accepted {pages : List InventoryPage} {recordLimit : Int}
    {s : InventorySnapshot} (h : assembleInventoryPages pages recordLimit = .ok s) :
    ∀ page ∈ pages, page.snapshotDigest = canonicalInventoryDigest s := by
  obtain ⟨-, -, -, hchain⟩ := assembleInventoryPages_eq_ok.mp h
  exact fun page hpage => congrArg PageHeader.snapshotDigest (hchain.header_eq page hpage)

/-- The pages of any cut of an inventory give the inventory back. -/
theorem assemble_paging {s : InventorySnapshot} {pieces : List (List InventoryRecord)}
    {recordLimit : Int} (hlimit : 1 ≤ recordLimit ∧ recordLimit ≤ maxPageRecords)
    (hrecords : pieces.flatten = s.records.items)
    (hpieces : ∀ piece ∈ pieces, piece ≠ [] ∧ piece.length ≤ recordLimit) :
    (∃ pages, IsPaging s none pieces pages) ∧
      ∀ pages, IsPaging s none pieces pages → assembleInventoryPages pages recordLimit = .ok s := by
  have hne : pieces ≠ [] := by
    rintro rfl
    exact s.records_ne_nil hrecords.symm
  refine ⟨@exists_paging _ _ s [] pieces none hrecords hne (fun piece hpiece => ?_) (by simp), ?_⟩
  · obtain ⟨hnil, hlength⟩ := hpieces piece hpiece
    exact ⟨hnil, by omega⟩
  · intro pages hpages
    obtain ⟨hchain, rfl⟩ := isChain_of_isPaging hpages
    refine assembleInventoryPages_eq_ok.mpr ⟨hlimit, fun page hpage => ?_, ?_, hchain⟩
    · exact (hpieces _ (List.mem_map_of_mem hpage)).2
    · rw [List.flatMap_def]
      exact hrecords

/-- Pages of an accepted sequence are not accepted in another sequence: none may be left out,
repeated, moved or cut off. -/
theorem not_accepted_of_subset {pages pages' : List InventoryPage} {recordLimit recordLimit' : Int}
    {s s' : InventorySnapshot} (h : assembleInventoryPages pages recordLimit = .ok s)
    (hsub : pages' ⊆ pages) (hne : pages' ≠ pages) :
    assembleInventoryPages pages' recordLimit' ≠ .ok s' := by
  intro h'
  obtain ⟨-, -, -, hchain⟩ := assembleInventoryPages_eq_ok.mp h
  obtain ⟨-, -, -, hchain'⟩ := assembleInventoryPages_eq_ok.mp h'
  exact hne (hchain.eq_of_subset hchain.eq_of_requestCursor hchain' (List.Subset.refl _) hsub)

/-- The page that carries an inventory's digest makes the whole sequence that inventory's. -/
theorem eq_of_accepted {pages : List InventoryPage} {recordLimit : Int} {s s' : InventorySnapshot}
    (h : assembleInventoryPages pages recordLimit = .ok s')
    (hsha : Set.InjOn Hashlib.sha256 (snapshotPayloads s s'))
    (hpage : ∃ page ∈ pages, page.snapshotDigest = canonicalInventoryDigest s) : s = s' := by
  obtain ⟨page, hmem, hdigest⟩ := hpage
  exact eq_of_digest_eq hsha (hdigest.symm.trans (snapshotDigest_of_accepted h page hmem))

/-- Pages of two inventories are not accepted in one sequence. -/
theorem not_accepted_of_mixed {mixed : List InventoryPage} {recordLimit : Int}
    {s s' t : InventorySnapshot} (hsha : Set.InjOn Hashlib.sha256 (snapshotPayloads s s'))
    (hne : s ≠ s') (hpage : ∃ page ∈ mixed, page.snapshotDigest = canonicalInventoryDigest s)
    (hpage' : ∃ page ∈ mixed, page.snapshotDigest = canonicalInventoryDigest s') :
    assembleInventoryPages mixed recordLimit ≠ .ok t := by
  intro h
  obtain ⟨page, hmem, hdigest⟩ := hpage
  obtain ⟨page', hmem', hdigest'⟩ := hpage'
  refine hne (eq_of_digest_eq hsha ?_)
  rw [← hdigest, ← hdigest', snapshotDigest_of_accepted h page hmem,
    snapshotDigest_of_accepted h page' hmem']

/-- Paging loses nothing: every cut of an inventory into pages gives it back, what is accepted is
such a cut, and nothing else made of its pages is accepted. -/
theorem paging_lossless :
    (∀ (s : InventorySnapshot) (pieces : List (List InventoryRecord)) (recordLimit : Int),
      1 ≤ recordLimit ∧ recordLimit ≤ maxPageRecords → pieces.flatten = s.records.items →
      (∀ piece ∈ pieces, piece ≠ [] ∧ piece.length ≤ recordLimit) →
        (∃ pages, IsPaging s none pieces pages) ∧
          ∀ pages, IsPaging s none pieces pages →
            assembleInventoryPages pages recordLimit = .ok s) ∧
    (∀ (pages : List InventoryPage) (recordLimit : Int) (s : InventorySnapshot),
      assembleInventoryPages pages recordLimit = .ok s →
        (pages.flatMap fun page => page.records.items) = s.records.items ∧
          IsPaging s none (pages.map fun page => page.records.items) pages ∧
          ∀ pages' recordLimit' s', pages' ⊆ pages → pages' ≠ pages →
            assembleInventoryPages pages' recordLimit' ≠ .ok s') ∧
    (∀ (s s' t : InventorySnapshot) (mixed : List InventoryPage) (recordLimit : Int),
      Set.InjOn Hashlib.sha256 (snapshotPayloads s s') → s ≠ s' →
      (∃ page ∈ mixed, page.snapshotDigest = canonicalInventoryDigest s) →
      (∃ page ∈ mixed, page.snapshotDigest = canonicalInventoryDigest s') →
        assembleInventoryPages mixed recordLimit ≠ .ok t) ∧
    ∀ (s s' : InventorySnapshot) (pages : List InventoryPage) (recordLimit : Int),
      assembleInventoryPages pages recordLimit = .ok s' →
      Set.InjOn Hashlib.sha256 (snapshotPayloads s s') →
      (∃ page ∈ pages, page.snapshotDigest = canonicalInventoryDigest s) → s = s' := by
  refine ⟨fun s pieces recordLimit hlimit hrecords hpieces =>
    assemble_paging hlimit hrecords hpieces, fun pages recordLimit s h => ?_,
    fun s s' t mixed recordLimit hsha hne => not_accepted_of_mixed hsha hne,
    fun s s' pages recordLimit h hsha => eq_of_accepted h hsha⟩
  obtain ⟨-, -, hrecords, hchain⟩ := assembleInventoryPages_eq_ok.mp h
  exact ⟨hrecords, isPaging_of_isChain hchain, fun _ _ _ hsub hne =>
    not_accepted_of_subset h hsub hne⟩

end Ucf

/-! ### A sample

The sample inventory, and the same with a diagnostic more. Their digests are told apart by the
number of their records. -/

namespace Ucf.Pages

open Ucf.Sample (digest digestValue producer provenance rootEntry subjectUri_valid)

scoped instance unicodedata : Unicodedata := Sample.unicodedata

/-- The number of items in a document's last field. -/
def lastLength : Payload → Nat
  | .canonical (.obj fields) =>
    match fields.getLast? with
    | some (_, .arr items) => items.length % 2
    | _ => 0
  | _ => 0

theorem lastLength_lt (payload : Payload) : lastLength payload < 2 := by
  unfold lastLength
  split
  · split
    · exact Nat.mod_lt _ (by decide)
    · decide
  · decide

scoped instance hashlib : Hashlib where
  sha256 payload := ⟨lastLength payload, lt_digestBound.mpr
    ((lastLength_lt payload).trans (by norm_num))⟩

def coverage : List InventoryCoverage :=
  FactKind.all.map fun kind =>
    ⟨kind, .complete, if kind = .repositoryEntry then ⟨1, one_safe⟩ else ⟨0, zero_safe⟩⟩

/-- The root directory and its provenance. -/
def records : List InventoryRecord := [.inventoryProvenance provenance, .repositoryEntry rootEntry]

theorem scan_valid : stringConstraints 1 (some 255) (matchName fun c => c ∈ ['.', '_', '-'])
    "scan" = none := by decide

def note : InventoryDiagnostic where
  id := ⟨.diagnostic, digestValue⟩
  severity := .info
  code := ⟨"org.ucf.note", by decide⟩
  factKind := none
  path := none
  stage := ⟨"scan", scan_valid⟩
  message := ⟨"note", by decide⟩
  provenance := none

def inventoryWith (records : List InventoryRecord) (h : records.length ≤ maxInventoryRecords)
    (hvalid : validateSnapshot digest producer
      ⟨⟨inventoryCapability, inventoryCapability_valid⟩, ⟨inventoryVersion, inventoryVersion_valid⟩⟩
      ⟨⟨[], by decide, by decide⟩, by decide⟩ coverage records = .ok ()) : InventorySnapshot :=
  ⟨⟨"urn:ucf:sample", subjectUri_valid⟩, digest, producer,
    ⟨⟨inventoryCapability, inventoryCapability_valid⟩, ⟨inventoryVersion, inventoryVersion_valid⟩⟩,
    ⟨⟨[], by decide, by decide⟩, by decide⟩, coverage, ⟨records, Nat.zero_le _, h⟩, hvalid⟩

def inventory : InventorySnapshot := inventoryWith records (by decide) (by decide +kernel)

def noted : InventorySnapshot :=
  inventoryWith (.inventoryDiagnostic note :: records) (by decide) (by decide +kernel)

theorem injOn_snapshotPayloads :
    Set.InjOn Hashlib.sha256 (snapshotPayloads inventory noted) := by
  have hne : Hashlib.sha256 (.canonical (modelDump inventory)) ≠
      Hashlib.sha256 (.canonical (modelDump noted)) := by decide +kernel
  rintro _ (rfl | rfl) _ (rfl | rfl) h
  · rfl
  · exact absurd h hne
  · exact absurd h.symm hne
  · rfl

theorem inventory_ne_noted : inventory ≠ noted := by
  intro h
  have hlength := congrArg (fun s : InventorySnapshot => s.records.items.length) h
  revert hlength
  decide

/-- The two inventories in pages of one record. -/
theorem paging_lossless_samples : ∃ pages pages' : List InventoryPage,
    assembleInventoryPages pages 1 = .ok inventory ∧
      assembleInventoryPages pages' 1 = .ok noted ∧
      (∀ t, assembleInventoryPages (pages ++ pages) 1 ≠ .ok t) ∧
      ∀ t, assembleInventoryPages (pages ++ pages') 1 ≠ .ok t := by
  obtain ⟨⟨pages, hpages⟩, haccept⟩ := paging_lossless.1 inventory
    [[.inventoryProvenance provenance], [.repositoryEntry rootEntry]] 1 (by decide) rfl
    (by simp)
  obtain ⟨⟨pages', hpages'⟩, haccept'⟩ := paging_lossless.1 noted
    [[.inventoryDiagnostic note], [.inventoryProvenance provenance],
      [.repositoryEntry rootEntry]] 1 (by decide) rfl (by simp)
  obtain ⟨hrecords, -, honly⟩ := paging_lossless.2.1 pages 1 inventory (haccept pages hpages)
  have hmem : ∃ page ∈ pages, page.snapshotDigest = canonicalInventoryDigest inventory := by
    cases pages with
    | nil => cases hpages
    | cons page pages =>
      exact ⟨page, by simp, snapshotDigest_of_accepted (haccept _ hpages) page (by simp)⟩
  have hmem' : ∃ page ∈ pages', page.snapshotDigest = canonicalInventoryDigest noted := by
    cases pages' with
    | nil => cases hpages'
    | cons page pages' =>
      exact ⟨page, by simp, snapshotDigest_of_accepted (haccept' _ hpages') page (by simp)⟩
  obtain ⟨page, hpage, hdigest⟩ := hmem
  obtain ⟨page', hpage', hdigest'⟩ := hmem'
  refine ⟨pages, pages', haccept pages hpages, haccept' pages' hpages', fun t => ?_, fun t => ?_⟩
  · refine honly _ _ _ (by simp) fun heq => ?_
    have hnil : pages = [] := by simpa using heq
    rw [hnil] at hpage
    cases hpage
  · exact paging_lossless.2.2.1 inventory noted t _ 1 injOn_snapshotPayloads inventory_ne_noted
      ⟨page, List.mem_append_left _ hpage, hdigest⟩
      ⟨page', List.mem_append_right _ hpage', hdigest'⟩

end Ucf.Pages
