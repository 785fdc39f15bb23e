import RowGate.Proofs.Query.Gather
import RowGate.Proofs.Query.Syntax
import RowGate.Proofs.Service.Effects
import RowGate.Proofs.Store.Paging
import RowGate.Proofs.Text.Percent

set_option autoImplicit false

namespace RowGate

namespace Query

def pageText (text : String) (size number : Nat) : String :=
  .ofList (text.toList ++ '&' :: Text.Percent.formText
    [("limit", Decimal.text size), ("offset", Decimal.text (number * size))])

theorem readInteger_text (mode : Mode) (key : String) (n : Nat) (bound : n ≤ maxInteger) :
    readInteger mode key (Decimal.text n) = .ok n := by
  have digits := Decimal.isDigit_of_mem_write n
  have trimmed : Text.trim (Decimal.write n) = Decimal.write n :=
    Text.trim_eq_self _ (Text.trimmed_of_forall _ fun c member =>
      isBlank_of_isDigit c (digits c member))
  have value : Decimal.value (Decimal.write n) ≤ maxInteger := by rwa [Decimal.value_write]
  have written : IntegerText (Decimal.text n).toList n := by
    rw [Decimal.text, String.toList_ofList]
    simpa using IntegerText.digits (Decimal.write n) (Decimal.write_ne_nil n) digits value (.inl trimmed)
  cases mode with
  | strict => exact (readInteger_strict_eq_ok_iff key _ n).mpr written
  | lenient =>
    exact congrArg Except.ok (coerceInteger_of_integer? _ n ((integer?_eq_some_iff _ n).mpr written))

theorem gather_pagePairs (options : GrammarOptions) (limit offset : Nat) (limited : limit ≤ maxInteger)
    (bounded : offset ≤ maxInteger) :
    gather options [("limit", Decimal.text limit), ("offset", Decimal.text offset)] =
      .ok { limit := some limit, offset := some offset } := by
  have limitKey : Key.ofText "limit" = .limit := by decide
  have offsetKey : Key.ofText "offset" = .offset := by decide
  have first : addPair options {} ("limit", Decimal.text limit) = .ok { limit := some limit } := by
    simp only [addPair, limitKey, readInteger_text _ _ _ limited]
    rfl
  have second : addPair options {} ("offset", Decimal.text offset) = .ok { offset := some offset } := by
    simp only [addPair, offsetKey, readInteger_text _ _ _ bounded]
    rfl
  rw [gather_cons options _ _ _ first, gather_singleton options _ _ second]
  rfl

theorem ofText_pageText (options : GrammarOptions) (text : String) (query : Query) (size number : Nat)
    (sized : size ≤ maxInteger) (bounded : number * size ≤ maxInteger)
    (parsed : ofText options text = .ok query) :
    ofText options (pageText text size number) =
      .ok { query with limit := some size, offset := some (number * size) } := by
  rw [ofText, ofPairs_eq_gather] at parsed
  cases gathered : gather options (Text.Percent.formPairs text.toList) with
  | error fault => rw [gathered] at parsed; cases parsed
  | ok asked =>
    rw [gathered] at parsed
    cases parsed
    rw [ofText, pageText, String.toList_ofList, Text.Percent.formPairs_append,
      Text.Percent.formPairs_formText, ofPairs_eq_gather,
      gather_append_ok options gathered (gather_pagePairs options size _ sized bounded)]
    simp only [Except.map, append, withDefaultSelect, List.append_nil, Bool.or_false]
    split <;> rfl

end Query

namespace Service

def listed (rows : List Row) (count : Option Nat) : Response :=
  .ofEnvelope ((Envelope.ok (.array (rows.map .object)) 200).withCount count)

theorem respond_of_list (service : Service) (store : Store) (request : Request) (slug : String)
    (routed : service.routeOf? request = some (.list slug)) :
    service.respond store request =
      match store.attempt (service.list store slug request.query) with
      | (.ok response, store) => (response, store)
      | (.error error, store) => (.ofError error service.debug, store) := by
  have route : route? service.basePath service.openApiEnabled request.method request.path =
      some (.list slug) := routed
  rw [respond, route]
  rfl

theorem list_eq (service : Service) (store : Store) (slug text : String) (resource : Resource)
    (query : Query) (rows : List Row) (n : Nat) (registered : service.registry.get slug = .ok resource)
    (parsed : Query.ofText service.options text = .ok query)
    (selected : store.select service.host.engine resource.table (service.limited query) = .ok rows)
    (counted : store.count service.host.engine resource.table (service.limited query) = .ok n) :
    service.list store slug text =
      .ok (listed rows (if query.count then some n else none), store) := by
  have asked : (service.limited query).count = query.count := rfl
  simp only [list, registered, parsed, bind, Except.bind, selected, counted, asked]
  cases query.count <;> rfl

theorem list_cases (service : Service) (store after : Store) (slug text : String)
    (response : Response) (done : service.list store slug text = .ok (response, after)) :
    ∃ resource query rows n, service.registry.get slug = .ok resource ∧
      Query.ofText service.options text = .ok query ∧
      store.select service.host.engine resource.table (service.limited query) = .ok rows ∧
      store.count service.host.engine resource.table (service.limited query) = .ok n ∧
      response = listed rows (if query.count then some n else none) := by
  have listing := done
  obtain ⟨resource, registered, done⟩ := (bind_eq_ok_iff _ _ _).mp done
  obtain ⟨query, parsed, done⟩ := (bind_eq_ok_iff _ _ _).mp done
  obtain ⟨rows, selected, -⟩ := (bind_eq_ok_iff _ _ _).mp done
  obtain ⟨n, counted⟩ :=
    (store.paged service.host.engine resource.table (service.limited query)).counted rows selected
  rw [list_eq service store slug text resource query rows n registered parsed selected counted] at listing
  cases listing
  exact ⟨resource, query, rows, n, registered, parsed, selected, counted, rfl⟩

theorem list_of_respond (service : Service) (store after : Store) (request : Request) (slug : String)
    (response : Response) (routed : service.routeOf? request = some (.list slug))
    (answered : service.respond store request = (response, after)) (status : response.status = 200) :
    service.list store slug request.query = .ok (response, after) := by
  have succeeded : response.Succeeds := by simp [Response.Succeeds, status]
  exact handle_of_respond service store after request response (.list slug) routed answered succeeded

theorem delivers_listed (rows : List Row) (count : Option Nat) :
    (listed rows count).Delivers 200 (.array (rows.map .object)) count :=
  delivers_ofEnvelope 200 (.array (rows.map .object)) count rfl (by decide) rfl

/-- The response brings the page of the whole result that the query asks for, with as many rows as the
limits and the count leave behind the offset. -/
def ListsPage (service : Service) (store : Store) (slug text : String) (response : Response) : Prop :=
  ∃ resource query all n rows, service.registry.get slug = .ok resource ∧
    Query.ofText service.options text = .ok query ∧
    store.select service.host.engine resource.table query.unpaged = .ok all ∧
    store.count service.host.engine resource.table query = .ok n ∧
    rows = (all.drop (query.offset.getD 0)).take
      (min (query.limit.getD service.maxRows) service.maxRows) ∧
    rows.length = min (min (query.limit.getD service.maxRows) service.maxRows)
      (n - query.offset.getD 0) ∧
    response.Delivers 200 (.array (rows.map .object)) (if query.count then some n else none)

theorem listsPage_of_respond (service : Service) (store after : Store) (request : Request) (slug : String)
    (response : Response) (routed : service.routeOf? request = some (.list slug))
    (answered : service.respond store request = (response, after)) (status : response.status = 200) :
    service.ListsPage store slug request.query response := by
  obtain ⟨resource, query, rows, n, registered, parsed, selected, counted, rfl⟩ :=
    list_cases service store after slug request.query response
      (list_of_respond service store after request slug response routed answered status)
  have paged := store.paged service.host.engine resource.table (service.limited query)
  rw [paged.cut] at selected
  cases whole : store.select service.host.engine resource.table (service.limited query).unpaged with
  | error fault => rw [whole] at selected; cases selected
  | ok all =>
    have length := paged.total n all counted whole
    rw [whole] at selected
    cases selected
    refine ⟨resource, query, all, n, _, registered, parsed, whole, counted, rfl, ?_, delivers_listed _ _⟩
    rw [List.length_take, List.length_drop, length]

theorem respond_page (service : Service) (store : Store) (request : Request) (slug : String)
    (resource : Resource) (query : Query) (all : List Row) (size number : Nat)
    (routed : service.routeOf? request = some (.list slug))
    (registered : service.registry.get slug = .ok resource)
    (parsed : Query.ofText service.options request.query = .ok query)
    (whole : store.select service.host.engine resource.table query.unpaged = .ok all)
    (most : size ≤ service.maxRows)
    (sized : size ≤ maxInteger) (bounded : number * size ≤ maxInteger) :
    service.respond store { request with query := Query.pageText request.query size number } =
      (listed ((all.drop (number * size)).take size) (if query.count then some all.length else none),
        store) := by
  let asked : Query := { query with limit := some size, offset := some (number * size) }
  have read : Query.ofText service.options (Query.pageText request.query size number) = .ok asked :=
    Query.ofText_pageText service.options request.query query size number sized bounded parsed
  have limited : service.limited asked = asked := by
    have least : min size service.maxRows = size := Nat.min_eq_left most
    simp [limited, asked, least]
  have selected : store.select service.host.engine resource.table (service.limited asked) =
      .ok ((all.drop (number * size)).take size) := by
    rw [limited, (store.paged service.host.engine resource.table asked).cut]
    change (store.select service.host.engine resource.table query.unpaged).map _ = _
    rw [whole]
    rfl
  have counted : store.count service.host.engine resource.table (service.limited asked) = .ok all.length := by
    rw [limited]
    exact store.count_of_select service.host.engine resource.table asked all whole
  have answered := respond_of_list service store
    { request with query := Query.pageText request.query size number } slug routed
  rw [list_eq service store slug _ resource asked _ _ registered read selected counted] at answered
  exact answered

/-- Counts and pages agree, in the store and in the answers of a service. -/
theorem respond_paging (service : Service) (store : Store) :
    (∀ engine name query, store.Paged engine name query) ∧
    (∀ request slug response after, service.routeOf? request = some (.list slug) →
      service.respond store request = (response, after) → response.status = 200 →
      service.ListsPage store slug request.query response) ∧
    ∀ request slug resource query all, service.routeOf? request = some (.list slug) →
      service.registry.get slug = .ok resource →
      Query.ofText service.options request.query = .ok query →
      store.select service.host.engine resource.table query.unpaged = .ok all →
      ∀ size, size ≤ service.maxRows → size ≤ maxInteger →
        (∀ number, number * size ≤ maxInteger →
          ∃ response, service.respond store
              { request with query := Query.pageText request.query size number } = (response, store) ∧
            response.Delivers 200 (.array (((all.drop (number * size)).take size).map .object))
              (if query.count then some all.length else none)) ∧
        ∀ pages, all.length ≤ pages * size →
          (List.range pages).flatMap (fun number => (all.drop (number * size)).take size) = all := by
  refine ⟨fun engine => store.paged engine, ?_, ?_⟩
  next =>
    intro request slug response after routed answered status
    exact listsPage_of_respond service store after request slug response routed answered status
  next =>
    intro request slug resource query all routed registered parsed whole size most sized
    refine ⟨?_, fun pages enough => Store.flatMap_pages all size pages enough⟩
    intro number bounded
    exact ⟨_, respond_page service store request slug resource query all size number routed registered
      parsed whole most sized bounded, delivers_listed _ _⟩

def reader (id name : String) : Row :=
  [("id", .string id), ("name", .string name)]

def readersTable : Table where
  schema := { name := "users" }
  rows := [reader "1" "Ann", reader "2" "Cid", reader "3" "Bea"]

def readersStore : Store where
  newKey := Store.keyText
  tables := [("users", readersTable)]

def orderedRequest : Request where
  method := .get
  path := "/api/users".toList
  query := "order=name.desc&count&offset=1"

def orderedQuery : Query where
  select := ["*"]
  order := [⟨"name", .desc⟩]
  offset := some 1
  count := true

def orderedRows : List Row :=
  [reader "2" "Cid", reader "3" "Bea", reader "1" "Ann"]

theorem sortRows_readers : Store.sortRows orderedQuery.order readersTable.rows = orderedRows := by
  have first : (Store.compareRows orderedQuery.order (reader "1" "Ann") (reader "2" "Cid")).isLE =
      false := by decide
  have second : (Store.compareRows orderedQuery.order (reader "2" "Cid") (reader "3" "Bea")).isLE =
      true := by decide
  have third : (Store.compareRows orderedQuery.order (reader "1" "Ann") (reader "3" "Bea")).isLE =
      false := by decide
  simp [Store.sortRows, readersTable, orderedRows, List.mergeSort, List.MergeSort.Internal.splitInTwo,
    first, second, third]

-- The second page of two rows holds the last one, and the count is that of all three.
theorem respond_paging_ordered :
    let second : Request := { orderedRequest with query := Query.pageText orderedRequest.query 2 1 }
    let last : Json := .array [.object (reader "1" "Ann")]
    ∃ response, usersService.respond readersStore second = (response, readersStore) ∧
      response.Delivers 200 last (some 3) ∧
      response.body = "\x7b\"data\":[\x7b\"id\":\"1\",\"name\":\"Ann\"\x7d],".toList ++
        "\"count\":3,\"error\":null\x7d".toList ∧
      usersService.ListsPage readersStore "users" second.query response ∧
      (List.range 2).flatMap (fun number => (orderedRows.drop (number * 2)).take 2) = orderedRows := by
  intro second last
  have routed : usersService.routeOf? orderedRequest = some (.list "users") := by decide +kernel
  have parsed : Query.ofText {} orderedRequest.query = .ok orderedQuery := by decide +kernel
  have whole : readersStore.select Regex.unlimited "users" orderedQuery.unpaged = .ok orderedRows :=
    congrArg Except.ok sortRows_readers
  obtain ⟨-, answers, pages⟩ := respond_paging usersService readersStore
  obtain ⟨paged, together⟩ := pages orderedRequest "users" { slug := "users" } orderedQuery orderedRows
    routed rfl parsed whole 2 (by decide) (by decide)
  obtain ⟨response, answered, delivers⟩ := paged 1 (by decide)
  refine ⟨response, answered, delivers, ?_, ?_, together 2 (by decide)⟩
  next =>
    rw [delivers.written]
    decide +kernel
  next => exact answers second "users" response readersStore routed answered delivers.answered

end Service

end RowGate
