import QuerySynth.Proofs.Schema.Merge

/-! # Looking things up in merged models

Merging two models puts the later messages in place of earlier ones of the same names. A method is found by the
name of its request message, in the first service in order that has one; services clash by their full names
only. So when services of different full names serve one resource, the names of the services decide which
method is found, while its request message is always the later one.
-/

namespace QuerySynth

def Service.method? (service : Service) (resource : String) (kind : MethodKind) : Option Method :=
  service.methods.find? fun method => method.kind == kind && method.input == kind.requestName resource

namespace Schema

variable {first second : Schema} {resource : String} {kind : MethodKind}

/-- The service that serves a resource. -/
def server? (schema : Schema) (resource : String) (kind : MethodKind) : Option Service :=
  schema.services.find? fun service => (service.method? resource kind).isSome

/-- The services of an earlier model that come before a service of a later one: those that the later model
leaves and whose names are not after the service's. -/
def before (first second : Schema) (service : Service) : List Service :=
  (unreplaced first.services second.services).filter (·.name ≤ service.name)

theorem method?_eq_findSome? (schema : Schema) (resource : String) (kind : MethodKind) :
    schema.method? resource kind = schema.services.findSome? (·.method? resource kind) := by
  rw [method?, List.find?_flatMap]
  rfl

theorem input_of_method? {schema : Schema} {method : Method} (found : schema.method? resource kind = some method) :
    method.input = kind.requestName resource := by
  have chosen := List.find?_some found
  simp only [Bool.and_eq_true, beq_iff_eq] at chosen
  exact chosen.2

/-- Some of the services in order are those services in order. -/
theorem filter_sortServices (keep : Service → Bool) (services : List Service) :
    (sortServices services).filter keep = sortServices (services.filter keep) := by
  refine eq_of_inOrder ((inOrder_sortServices services).filter keep) (inOrder_sortServices _) fun name => ?_
  rw [filter_name_sortServices, List.filter_comm, filter_name_sortServices, List.filter_comm]

/-- Services in order begin with those whose names are not after a name. -/
theorem split_of_inOrder {services : List Service} (inOrder : InOrder services) (name : String) :
    services = services.filter (·.name ≤ name) ++ services.filter (¬ ·.name ≤ name) := by
  induction services with
  | nil => rfl
  | cons service rest ih =>
    obtain ⟨below, inOrder⟩ := List.pairwise_cons.mp inOrder
    rw [List.filter_cons, List.filter_cons]
    by_cases reached : service.name ≤ name
    · rw [if_pos (decide_eq_true reached), if_neg (by simp only [reached, not_true, decide_false]; decide),
        List.cons_append, ← ih inOrder]
    · have after : ∀ other ∈ rest, ¬ other.name ≤ name := fun other member bounded =>
        reached (String.le_trans (below other member) bounded)
      have low : rest.filter (·.name ≤ name) = [] := List.filter_eq_nil_iff.mpr fun other member bounded =>
        after other member (of_decide_eq_true bounded)
      have high : rest.filter (¬ ·.name ≤ name) = rest := List.filter_eq_self.mpr fun other member =>
        decide_eq_true (after other member)
      rw [if_neg (fun bounded => reached (of_decide_eq_true bounded)), if_pos (decide_eq_true reached), low, high,
        List.nil_append]

theorem findSome?_filter_isSome {α β : Type} (f : α → Option β) (entries : List α) :
    (entries.filter fun entry => (f entry).isSome).findSome? f = entries.findSome? f := by
  induction entries with
  | nil => rfl
  | cons entry rest ih =>
    cases found : f entry with
    | none => rw [List.filter_cons_of_neg (by simp [found]), ih, List.findSome?_cons, found]
    | some result =>
      rw [List.filter_cons_of_pos (by simp [found]), List.findSome?_cons, found, List.findSome?_cons, found]

/-- When two lists of services in order are put in order together, the first one of the second list that has
something gives it, unless one of the first list does whose name is not after its name. -/
theorem findSome?_sortServices {β : Type} {earlier later : List Service} (inOrder : InOrder earlier)
    (inOrder' : InOrder later) {f : Service → Option β} {service : Service}
    (found : later.find? (fun service => (f service).isSome) = some service) :
    (sortServices (earlier ++ later)).findSome? f =
      ((earlier.filter (·.name ≤ service.name)).findSome? f).or (f service) := by
  have something : (f service).isSome = true := List.find?_some (p := fun service => (f service).isSome) found
  obtain ⟨result, gives⟩ := Option.isSome_iff_exists.mp something
  obtain ⟨rest, chosen⟩ : ∃ rest, later.filter (fun service => (f service).isSome) = service :: rest :=
    List.head?_eq_some_iff.mp (List.head?_filter.trans found)
  have least : ∀ other ∈ service :: rest, service.name ≤ other.name := by
    have inOrder := chosen ▸ inOrder'.filter fun service => (f service).isSome
    exact List.forall_mem_cons.mpr ⟨String.le_refl _, (List.pairwise_cons.mp inOrder).1⟩
  -- Up to the service's name, those that have something are those of the first list and then the service.
  have low : ((sortServices (earlier ++ later)).filter (·.name ≤ service.name)).filter
        (fun service => (f service).isSome) =
      (earlier.filter (·.name ≤ service.name)).filter (fun service => (f service).isSome) ++
        service :: rest.filter (·.name ≤ service.name) := by
    have split : (later.filter (·.name ≤ service.name)).filter (fun service => (f service).isSome) =
        service :: rest.filter (·.name ≤ service.name) := by
      rw [List.filter_comm, chosen, List.filter_cons, if_pos (decide_eq_true (String.le_refl _))]
    rw [filter_sortServices, filter_sortServices, List.filter_append, List.filter_append, split]
    refine sortServices_of_inOrder (List.pairwise_append.mpr ⟨(inOrder.filter _).filter _, ?_, ?_⟩)
    · exact split ▸ (inOrder'.filter _).filter _
    · intro other kept next following
      have bounded : other.name ≤ service.name :=
        of_decide_eq_true (List.mem_filter.mp (List.mem_of_mem_filter kept)).2
      have among : next ∈ service :: rest := by
        rcases List.mem_cons.mp following with rfl | later
        · exact List.mem_cons_self
        · exact List.mem_cons_of_mem _ (List.mem_of_mem_filter later)
      exact String.le_trans bounded (least next among)
  rw [split_of_inOrder (inOrder_sortServices (earlier ++ later)) service.name, List.findSome?_append,
    ← findSome?_filter_isSome f (List.filter (·.name ≤ service.name) _), low, List.findSome?_append,
    findSome?_filter_isSome, List.findSome?_cons, gives, Option.or_assoc, Option.some_or]

theorem message?_merge (sorted : second.messages.Sorted) (name : String) :
    (first.merge second).message? name = (second.message? name).or (first.message? name) :=
  Keyed.get?_insertAll_of_sorted sorted first.messages name

/-- The method of a merged model is that of the service that serves the resource in the later model, unless a
service before it serves the resource. -/
theorem method?_merge (wellFormed : first.WellFormed) (wellFormed' : second.WellFormed) {service : Service}
    (serving : second.server? resource kind = some service) :
    (first.merge second).method? resource kind =
      ((before first second service).findSome? (·.method? resource kind)).or (service.method? resource kind) := by
  rw [method?_eq_findSome?, services_merge wellFormed'.distinct]
  exact findSome?_sortServices (wellFormed.inOrder.filter _) wellFormed'.inOrder serving

theorem exists_server? {schema : Schema} {method : Method} (found : schema.method? resource kind = some method) :
    ∃ service, schema.server? resource kind = some service ∧ service.method? resource kind = some method := by
  rw [method?_eq_findSome?] at found
  obtain ⟨ahead, service, behind, services, gives, others⟩ := List.findSome?_eq_some_iff.mp found
  refine ⟨service, List.find?_eq_some_iff_append.mpr ⟨by simp [gives], ahead, behind, services, ?_⟩, gives⟩
  intro other member
  simp [others other member]

/-- Later messages win. The later method is found exactly when no service before the one that serves the
resource serves it first with another method; the request message is the later one in any case. -/
theorem later_definitions_iff (wellFormed : first.WellFormed) (wellFormed' : second.WellFormed) :
    (∀ name, (first.merge second).message? name = (second.message? name).or (first.message? name)) ∧
    ∀ resource kind method, second.method? resource kind = some method →
      ∃ service, second.server? resource kind = some service ∧
        ((first.merge second).method? resource kind = some method ↔
          ∀ other, (before first second service).findSome? (·.method? resource kind) = some other →
            other = method) ∧
        (first.merge second).request? resource kind =
          (second.request? resource kind).or (first.message? method.input) := by
  refine ⟨message?_merge wellFormed'.messages, fun resource kind method found => ?_⟩
  obtain ⟨service, serving, gives⟩ := exists_server? found
  have merged := method?_merge wellFormed wellFormed' serving
  rw [gives] at merged
  refine ⟨service, serving, ?_, ?_⟩
  · rw [merged]
    cases (before first second service).findSome? (·.method? resource kind) with
    | none => simp
    | some other => simp
  · obtain ⟨chosen, is⟩ : ∃ chosen, (first.merge second).method? resource kind = some chosen := by
      rw [merged, ← Option.isSome_iff_exists, Option.isSome_or]
      simp
    have input : chosen.input = method.input := (input_of_method? is).trans (input_of_method? found).symm
    rw [request?, request?, is, found, Option.bind_some, Option.bind_some, input,
      message?_merge wellFormed'.messages]

/-- A model with a service that lists items. -/
def listing (package service response : String) : Schema where
  services := [⟨service, package ++ "." ++ service, [⟨"List", .list, "ListItemsRequest", response⟩]⟩]
  messages := [("ListItemsRequest", ⟨"ListItemsRequest", package ++ ".ListItemsRequest", []⟩)]

/-- The later service is first in order, so both its method and its request message are found. -/
theorem later_definitions_stock :
    let first := listing "a" "StockService" "ListStockResponse"
    let second := listing "b" "ItemService" "ListItemsResponse"
    first.WellFormed ∧ second.WellFormed ∧
    second.method? "items" .list = some ⟨"List", .list, "ListItemsRequest", "ListItemsResponse"⟩ ∧
    (first.merge second).method? "items" .list = some ⟨"List", .list, "ListItemsRequest", "ListItemsResponse"⟩ ∧
    (first.merge second).request? "items" .list = some ⟨"ListItemsRequest", "b.ListItemsRequest", []⟩ := by
  intro first second
  have wellFormed : first.WellFormed := by decide +kernel
  have wellFormed' : second.WellFormed := by decide +kernel
  have found : second.method? "items" .list = some ⟨"List", .list, "ListItemsRequest", "ListItemsResponse"⟩ := by
    decide +kernel
  obtain ⟨service, serving, later, request⟩ :=
    (later_definitions_iff wellFormed wellFormed').2 "items" .list _ found
  have unserved : (second.server? "items" .list).map (before first second) = some [] := by decide +kernel
  rw [serving] at unserved
  refine ⟨wellFormed, wellFormed', found, later.mpr ?_, request.trans (by decide +kernel)⟩
  intro other earlier
  rw [Option.some.inj unserved] at earlier
  cases earlier

/-- An earlier service that comes before the later one keeps its method, while its request message is that of
the later model. -/
theorem not_later_definitions_items :
    ¬ ∀ first second : Schema, first.WellFormed → second.WellFormed →
      (∀ name message, second.message? name = some message →
        (first.merge second).message? name = some message) ∧
      ∀ resource kind method, second.method? resource kind = some method →
        (first.merge second).method? resource kind = some method := by
  intro claim
  let first := listing "a" "ItemService" "ListItemsResponse"
  let second := listing "b" "StockService" "ListStockResponse"
  have later := (claim first second (by decide +kernel) (by decide +kernel)).2 "items" .list
    ⟨"List", .list, "ListItemsRequest", "ListStockResponse"⟩ (by decide +kernel)
  have services : (first.merge second).services = first.services ++ second.services :=
    (services_merge (by decide +kernel)).trans (sortServices_of_inOrder (by decide +kernel))
  rw [method?, services] at later
  exact absurd later (by decide +kernel)

end Schema

end QuerySynth
