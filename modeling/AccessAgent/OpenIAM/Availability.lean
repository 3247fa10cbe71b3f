import AccessAgent.OpenIAM.UserRecord
import Mathlib.Data.List.Nodup
import Mathlib.Data.List.Perm.Basic

/-! What `check_availability` answers: whether the latest connection test of some managed system
of the user has failed. A system that nothing is known of is not down. -/

namespace AccessAgent.OpenIAM
open Semantics Raising

variable {σ : Type} [Clock σ]

/-! ### The latest reply -/

def replyDate (reply : Json) : Option Datetime := Datetime.strptime (reply.field "dateStr").pyStr

/-- The reply with the greatest date, the first of equal ones, or the last where none has a
date. -/
inductive LatestReply (replies : List Json) : Json → Prop
  | dated (before reply after date) (shape : replies = before ++ reply::after) (dated : replyDate reply = some date)
      (above : ∀ other ∈ before, ∀ earlier, replyDate other = some earlier → earlier.instant < date.instant)
      (notBelow : ∀ other ∈ after, ∀ later, replyDate other = some later → later.instant ≤ date.instant) :
      LatestReply replies reply
  | last (reply) (undated : ∀ other ∈ replies, replyDate other = none) (last : replies.getLast? = some reply) :
      LatestReply replies reply

theorem no_latestReply {reply : Json} : ¬LatestReply [] reply := by
  rintro (⟨before,_,after,_,shape,_,_,_⟩ | ⟨_,_,last⟩)
  · simp at shape
  · simp at last

theorem LatestReply.member {replies : List Json} {reply : Json} (latest : LatestReply replies reply) : reply ∈ replies := by
  rcases latest with ⟨before,_,after,_,shape,_,_,_⟩ | ⟨_,_,last⟩
  · simp [shape]
  · exact List.mem_of_getLast? last

theorem strptime_naive {text : String} {date : Datetime} (parsed : Datetime.strptime text = some date) : date.aware = false := by
  rw [Datetime.strptime] at parsed
  split at parsed
  next =>
    obtain ⟨_,made⟩ := Option.dite_none_right_eq_some.mp parsed
    rw [← Option.some.inj made]
    rfl
  next => simp at parsed

def datedOf (reply : Json) : Option (Datetime × Json) := (replyDate reply).map fun date => (date,reply)

theorem datedOf_some {reply other : Json} {date : Datetime} :
    datedOf other = some (date,reply) ↔ other = reply ∧ replyDate reply = some date := by
  rw [datedOf,Option.map_eq_some_iff]
  constructor
  · rintro ⟨found,known,same⟩
    obtain ⟨rfl,rfl⟩ := Prod.mk.inj same
    exact ⟨rfl,known⟩
  · rintro ⟨rfl,known⟩
    exact ⟨date,known,rfl⟩

theorem mem_dated {replies : List Json} {date : Datetime} {reply : Json} :
    (date,reply) ∈ replies.filterMap datedOf ↔ reply ∈ replies ∧ replyDate reply = some date := by
  simp [List.mem_filterMap,datedOf_some]

/-- What the scan over the dated replies finds, by its place among all of them. -/
theorem first_dated {replies : List Json} {date : Datetime} {reply : Json} :
    Datetime.order.First Prod.fst (replies.filterMap datedOf) (date,reply) ↔
      ∃ before after, replies = before ++ reply::after ∧ replyDate reply = some date ∧
        (∀ other ∈ before, ∀ earlier, replyDate other = some earlier → earlier.instant < date.instant) ∧
        ∀ other ∈ after, ∀ later, replyDate other = some later → later.instant ≤ date.instant := by
  constructor
  · rintro ⟨earlier,later,shape,above,notBelow⟩
    obtain ⟨before,rest,rfl,rfl,cut⟩ := List.filterMap_eq_append_iff.mp shape
    obtain ⟨undated,chosen,after,rfl,absent,found,rfl⟩ := List.filterMap_eq_cons_iff.mp cut
    obtain ⟨rfl,known⟩ := datedOf_some.mp found
    refine ⟨before ++ undated,after,by simp,known,?_,?_⟩
    · intro other member past dated
      rcases List.mem_append.mp member with first | second
      · exact (above (past,other) (mem_dated.mpr ⟨first,dated⟩)).2
      · have missing := absent other second
        rw [datedOf,dated] at missing
        cases missing
    · intro other member past dated
      exact (notBelow (past,other) (mem_dated.mpr ⟨member,dated⟩)).2
  · rintro ⟨before,after,rfl,known,above,notBelow⟩
    refine ⟨before.filterMap datedOf,after.filterMap datedOf,?_,?_,?_⟩
    · rw [List.filterMap_append,List.filterMap_cons,datedOf_some.mpr ⟨rfl,known⟩]
    · rintro ⟨past,other⟩ member
      obtain ⟨inside,dated⟩ := mem_dated.mp member
      exact ⟨(strptime_naive dated).trans (strptime_naive known).symm,above other inside past dated⟩
    · rintro ⟨past,other⟩ member
      obtain ⟨inside,dated⟩ := mem_dated.mp member
      exact ⟨(strptime_naive dated).trans (strptime_naive known).symm,notBelow other inside past dated⟩

theorem succeeds_datedReply {reply : Json} : Succeeds (datedReply reply) ↔ reply.isObject = true := by
  rw [datedReply,succeeds_return]
  exact Json.succeeds_get

theorem datedReply_success {reply : Json} {found : Option (Datetime × Json)} (ok : datedReply reply = .ok found) :
    found = datedOf reply := by
  obtain ⟨date,read,ok⟩ := bind_success ok
  obtain ⟨_,rfl⟩ := Json.get_success read
  exact (pure_success ok).symm

theorem latestReply_success {replies : Json} {found : Option Json} (ok : latestReply replies.orEmpty = .ok found)
    (reply : Json) : found = some reply ↔ LatestReply replies.items reply := by
  rw [latestReply] at ok
  split at ok
  next present =>
    obtain ⟨entries,walked,ok⟩ := bind_success ok
    obtain ⟨dated,read,ok⟩ := bind_success ok
    obtain rfl : entries = replies.items := by
      rcases Json.elements_success walked with ⟨_,same⟩ | ⟨text,rest,rfl⟩
      · exact same
      · have object := succeeds_datedReply.mp (succeeds_filterMapM.mp ⟨dated,read⟩ (.str text) (by simp))
        simp [Json.isObject] at object
    obtain rfl := filterMapM_success (fun _ _ => datedReply_success) read
    split at ok
    next empty =>
      rw [← pure_success ok]
      have undated : ∀ other ∈ replies.items, replyDate other = none := by
        intro other member
        have missing := List.filterMap_eq_nil_iff.mp empty other member
        rwa [datedOf,Option.map_eq_none_iff] at missing
      constructor
      · exact LatestReply.last reply undated
      · rintro (⟨before,_,after,date,shape,dated,_,_⟩ | ⟨_,_,last⟩)
        · simp [undated reply (by simp [shape])] at dated
        · exact last
    next first rest shape =>
      obtain ⟨latest,scanned,ok⟩ := bind_success ok
      rw [← pure_success ok,Option.some.injEq]
      have greatest := (Datetime.order.scan_ok Prod.fst first rest latest).mp scanned
      rw [← shape] at greatest
      constructor
      · rintro rfl
        obtain ⟨before,after,shape,known,above,notBelow⟩ := first_dated.mp greatest
        exact .dated before latest.2 after latest.1 shape known above notBelow
      · rintro (⟨before,_,after,date,placed,dated,above,notBelow⟩ | ⟨_,undated,_⟩)
        · have again := first_dated.mpr ⟨before,after,placed,dated,above,notBelow⟩
          rw [shape] at again
          have rescanned := (Datetime.order.scan_ok Prod.fst first rest _).mpr again
          exact congrArg Prod.snd (Except.ok.inj (scanned.symm.trans rescanned))
        · obtain ⟨member,dated⟩ := mem_dated.mp greatest.member
          simp [undated _ member] at dated
  next empty =>
    obtain rfl := pure_success ok
    rw [Json.orEmpty_falsy empty]
    exact iff_of_false (by simp) no_latestReply

theorem succeeds_latestReply {replies : Json} (records : replies.Records) : Succeeds (latestReply replies.orEmpty) := by
  rw [Json.orEmpty_items records.1,latestReply]
  split
  · obtain ⟨dated,read⟩ : Succeeds (replies.items.filterMapM datedReply) := succeeds_filterMapM.mpr fun reply member =>
      succeeds_datedReply.mpr (records.2 reply member)
    refine succeeds_bind.mpr ⟨_,rfl,succeeds_bind.mpr ⟨dated,read,?_⟩⟩
    obtain rfl := filterMapM_success (fun _ _ => datedReply_success) read
    split
    · exact succeeds_pure _
    next first rest shape =>
      have naive : ∀ entry ∈ first::rest, entry.1.aware = false := by
        intro entry member
        rw [← shape] at member
        exact strptime_naive (mem_dated.mp member).2
      refine succeeds_return.mpr (Comparison.succeeds_scan_pairs.mpr ?_)
      intro left inside right member
      exact (naive left inside).trans (naive right member).symm
  · exact succeeds_pure none

/-! ### One system -/

/-- The replies of the first system found. -/
def repliesOf (document : Json) : List Json :=
  match document.listed "beans" with
  | bean::_ => bean.listed "replies"
  | [] => []

/-- The lookup succeeded, and the latest reply in it is not the one that is known to be good. -/
def Failing (response : Response) : Prop :=
  response.statusCode < 400 ∧ ∃ document reply, response.json = .ok document ∧ LatestReply (repliesOf document) reply ∧
    reply.field "status" ≠ .str "Ok"

def systemAnswer (response : Response) : Except Exn (Option Bool) :=
  if response.failed then .ok none else response.json >>= systemReply

theorem systemReply_success {document : Json} {found : Option Bool} (ok : systemReply document = .ok found) :
    found = some false ↔ ∃ reply, LatestReply (repliesOf document) reply ∧ reply.field "status" ≠ .str "Ok" := by
  obtain ⟨beans,read,ok⟩ := bind_success ok
  obtain ⟨_,rfl⟩ := Json.get_success read
  dsimp only at ok
  rw [repliesOf,Json.listed]
  have unseen : ∀ {replies}, (∀ reply, ¬LatestReply replies reply) →
      ((none : Option Bool) = some false ↔ ∃ reply, LatestReply replies reply ∧ reply.field "status" ≠ .str "Ok") :=
    fun nothing => iff_of_false (by simp) fun found => nothing _ found.choose_spec.1
  split at ok
  next present =>
    obtain ⟨bean,first,ok⟩ := bind_success ok
    obtain ⟨replies,read,ok⟩ := bind_success ok
    obtain ⟨object,rfl⟩ := Json.get_success read
    obtain ⟨latest,chosen,ok⟩ := bind_success ok
    have known := latestReply_success chosen
    obtain ⟨rest,shape⟩ := Json.head_object first object
    rw [shape]
    dsimp only
    cases latest with
    | none =>
      rw [← pure_success ok]
      exact unseen fun reply latest => nomatch (known reply).mpr latest
    | some reply =>
      obtain ⟨status,read,ok⟩ := bind_success ok
      obtain ⟨_,rfl⟩ := Json.get_success read
      rw [← pure_success ok,Option.some.injEq,Bool.eq_false_iff,Ne,Json.isText_iff]
      constructor
      · intro bad
        exact ⟨reply,(known reply).mp rfl,bad⟩
      · rintro ⟨other,latest,bad⟩
        obtain rfl := Option.some.inj ((known other).mpr latest)
        exact bad
  next empty =>
    rw [← pure_success ok,Json.orEmpty_falsy empty]
    exact unseen fun reply => no_latestReply

theorem systemAnswer_success {response : Response} {found : Option Bool} (ok : systemAnswer response = .ok found) :
    found = some false ↔ Failing response := by
  rw [Failing,← not_le]
  rw [systemAnswer] at ok
  split at ok
  next failed =>
    rw [← Except.ok.inj ok]
    refine iff_of_false (by simp) ?_
    rintro ⟨succeeded,_⟩
    exact succeeded (of_decide_eq_true failed)
  next succeeded =>
    obtain ⟨document,decoded,ok⟩ := bind_success ok
    have known : ¬400 ≤ response.statusCode := fun error => succeeded (decide_eq_true error)
    rw [systemReply_success ok,and_iff_right known,decoded]
    simp only [Except.ok.injEq]
    constructor
    · rintro ⟨reply,latest,bad⟩
      exact ⟨document,reply,rfl,latest,bad⟩
    · rintro ⟨_,reply,rfl,latest,bad⟩
      exact ⟨reply,latest,bad⟩

/-- A dashboard answer of the expected shape: records of systems, each with records of replies. -/
structure DashboardRecord where
  document : Json
  object : document.isObject = true
  beans : (document.field "beans").Records
  replies : ∀ bean ∈ document.listed "beans", (bean.field "replies").Records

theorem DashboardRecord.succeeds_systemReply (record : DashboardRecord) : Succeeds (systemReply record.document) := by
  rw [systemReply,succeeds_step (Json.get_field record.object _)]
  dsimp only
  rw [Json.orEmpty_items record.beans.1]
  split
  next present =>
    obtain ⟨bean,rest,shape⟩ := List.exists_cons_of_ne_nil
      (show (record.document.field "beans").items ≠ [] by simpa [Json.truthy] using present)
    have member : bean ∈ record.document.listed "beans" := by simp [Json.listed,shape]
    obtain ⟨latest,chosen⟩ := succeeds_latestReply (record.replies bean member)
    rw [shape]
    refine succeeds_bind.mpr ⟨bean,rfl,succeeds_bind.mpr ⟨_,Json.get_field (record.beans.2 bean member) _,?_⟩⟩
    refine succeeds_bind.mpr ⟨latest,chosen,?_⟩
    cases latest with
    | none => exact succeeds_pure none
    | some reply =>
      have object := (record.replies bean member).2 reply ((latestReply_success chosen reply).mp rfl).member
      exact succeeds_bind.mpr ⟨_,Json.get_field object _,succeeds_pure _⟩
  next => exact succeeds_pure none

/-! ### The systems of a user -/

/-- A body whose managed systems, where they are given, have names. -/
structure SystemsRecord where
  body : Json
  object : body.isObject = true
  principalList : (body.field "principalList").Records
  named : ∀ entry ∈ logins body, (entry.field "managedSys").truthy = true → ∃ name, entry.field "managedSys" = .str name

/-- Some login of the user is for this managed system. -/
def Named (body : Json) (name : String) : Prop := name ≠ "" ∧ ∃ entry ∈ logins body, entry.field "managedSys" = .str name

def noteName (found : List Json) (name : Json) : List Json := if found.any name.sameKey then found else found ++ [name]

theorem noteName_texts (found : List String) (name : String) :
    noteName (found.map .str) (.str name) = (if name ∈ found then found else found ++ [name]).map .str := by
  have member : (found.map Json.str).any (Json.str name).sameKey = decide (name ∈ found) := by
    rw [List.any_map,Bool.eq_iff_iff,List.any_eq_true,decide_eq_true_iff]
    simp [Json.sameKey,Json.number]
  rw [noteName,member]
  by_cases known : name ∈ found <;> simp [known]

/-- The set of some names: each of them once, in some order. -/
theorem nameSet_texts (order : SetOrder) (names : List String) :
    ∃ systems : List String, nameSet order (names.map .str) = systems.map .str ∧ systems.Nodup ∧
      ∀ name, name ∈ systems ↔ name ∈ names := by
  have collected : ∀ found : List String, found.Nodup → ∃ systems : List String,
      (names.map Json.str).foldl noteName (found.map .str) = systems.map .str ∧ systems.Nodup ∧
        ∀ name, name ∈ systems ↔ name ∈ found ∨ name ∈ names := by
    induction names with
    | nil => exact fun found distinct => ⟨found,rfl,distinct,by simp⟩
    | cons name rest ih =>
      intro found distinct
      rw [List.map_cons,List.foldl_cons,noteName_texts]
      split
      next known =>
        obtain ⟨systems,shape,nodup,member⟩ := ih found distinct
        refine ⟨systems,shape,nodup,fun other => ?_⟩
        rw [member,List.mem_cons]
        grind
      next fresh =>
        have longer : (found ++ [name]).Nodup := by
          rw [← List.concat_eq_append]
          exact List.Nodup.concat fresh distinct
        obtain ⟨systems,shape,nodup,member⟩ := ih (found ++ [name]) longer
        refine ⟨systems,shape,nodup,fun other => ?_⟩
        rw [member,List.mem_append,List.mem_singleton,List.mem_cons,or_assoc]
  obtain ⟨systems,shape,nodup,member⟩ := collected [] List.nodup_nil
  obtain ⟨walked,same,perm⟩ : Relation.Comp (· = List.map Json.str ·) List.Perm (order.order (systems.map .str)) systems := by
    rw [List.eq_map_comp_perm]
    exact order.perm _
  rw [← shape] at same
  refine ⟨walked,same,perm.nodup_iff.mpr nodup,fun name => ?_⟩
  rw [perm.mem_iff,member]
  simp

def nameOf (entry : Json) : Option String :=
  match entry.field "managedSys" with
  | .str name => if name = "" then none else some name
  | _ => none

theorem managedSysName_ok {entry : Json} (object : entry.isObject = true)
    (named : (entry.field "managedSys").truthy = true → ∃ name, entry.field "managedSys" = .str name) :
    managedSysName entry = .ok ((nameOf entry).map .str) := by
  rw [managedSysName,Json.get_field object,ok_bind,nameOf]
  split
  next truthy =>
    obtain ⟨name,known⟩ := named truthy
    have present : entry.field "managedSys" ≠ .null := by simp [known]
    rw [known] at truthy
    rw [Json.item_field present,ok_bind,known]
    have nonempty : name ≠ "" := by simpa [Json.truthy] using truthy
    simp [Json.memberOf,nonempty]
  next falsy =>
    split
    next name known =>
      rw [known] at falsy
      have empty : name = "" := by simpa [Json.truthy] using falsy
      rw [if_pos empty]
      rfl
    next => rfl

theorem SystemsRecord.names_ok (record : SystemsRecord) :
    (logins record.body).filterMapM managedSysName = .ok (((logins record.body).filterMap nameOf).map .str) := by
  rw [List.map_filterMap]
  exact filterMapM_ok fun entry member => managedSysName_ok (record.principalList.2 entry member) (record.named entry member)

theorem mem_names {body : Json} {name : String} : name ∈ (logins body).filterMap nameOf ↔ Named body name := by
  rw [List.mem_filterMap,Named,← exists_and_left]
  refine exists_congr fun entry => ?_
  rw [← and_left_comm]
  refine and_congr_right fun _ => ?_
  rw [nameOf]
  split
  next found known =>
    rw [known,Json.str.injEq]
    by_cases empty : found = ""
    · simp [empty,eq_comm]
    · rw [if_neg empty,Option.some.injEq]
      constructor
      · rintro rfl
        exact ⟨empty,rfl⟩
      · exact And.right
  next other => exact iff_of_false (by simp) fun found => other name found.2

/-! ### The answer -/

omit [Clock σ] in
theorem gather_exec {α β : Type} {items : List α} {task : α → Effect Exn σ β} {f : α → Except Exn β} {world : σ}
    (each : ∀ item ∈ items, (task item).exec world = (f item,world)) :
    (gather (items.map task)).exec world = (items.mapM f,world) := by
  induction items with
  | nil => rfl
  | cons item rest ih =>
    obtain ⟨first,others⟩ := List.forall_mem_cons.mp each
    rw [List.map_cons,gather,List.mapM_cons]
    dsimp only
    rw [first,ih others]

/-- The answer for a user and for each managed system. -/
def observed (user : Response) (family : String → Response) (request : Request) : Response :=
  match Json.find "name" request.params with
  | some (.str name) => family name
  | _ => user

def checked (family : String → Response) (name : String) : Except Exn (Json × Option Bool) := do
  let reply ← systemAnswer (family name)
  return (.str name,reply)

omit [Clock σ] in
theorem checkManagedSystem_exec (user : Response) (family : String → Response) (name : String) (world : σ) :
    (checkManagedSystem (answering (observed user family)) (.str name)).exec world = (checked family name,world) := by
  have asked : observed user family (dashboardSearch (.str name)) = family name := rfl
  rw [checkManagedSystem,Effect.bind_exec,answering,Effect.pure_exec,asked,checked,systemAnswer]
  dsimp only
  split
  · rfl
  · rw [Effect.bind_exec,Effect.lift_exec]
    cases (family name).json with
    | error raised => rfl
    | ok document =>
      dsimp only
      rw [Effect.bind_exec,Effect.lift_exec,ok_bind]
      cases systemReply document <;> rfl

/-- Whether the system is known to work, where its lookup answers. -/
def reading (response : Response) : Option Bool :=
  match systemAnswer response with
  | .ok known => known
  | .error _ => none

def failing (family : String → Response) (names : List String) : List String :=
  names.filter fun name => reading (family name) == some false

def availabilityOf (checkedAt : Datetime) (names down : List String) : AvailabilityResult :=
  if names = [] then ⟨.up,some "No managed systems found for this user.",checkedAt⟩
  else if down = [] then ⟨.up,some ("All managed systems OK: " ++
    Text.join ", " (names.mergeSort fun a b => decide (a ≤ b))),checkedAt⟩
  else ⟨.down,some ("Managed system(s) not working: " ++ Text.join ", " (down.map fun name => name ++ " (status not Ok)")),
    checkedAt⟩

theorem checked_success {family : String → Response} {names : List String} {results : List (Json × Option Bool)}
    (ok : names.mapM (checked family) = .ok results) : results = names.map fun name => (.str name,reading (family name)) := by
  have each : ∀ name result, checked family name = .ok result → (Json.str name,reading (family name)) = result := by
    intro name result answered
    obtain ⟨reply,known,answered⟩ := bind_success answered
    rw [← pure_success answered,reading,known]
  have related := mapM_success each ok
  rw [← List.forall₂_map_left_iff (f := fun name => (Json.str name,reading (family name)))] at related
  exact (List.forall₂_eq_eq_eq ▸ related).symm

theorem filter_failing (family : String → Response) (names : List String) :
    (names.map fun name => (Json.str name,reading (family name))).filter (fun result => result.2 == some false) =
      (failing family names).map fun name => (Json.str name,reading (family name)) := by
  rw [List.filter_map,failing]
  rfl

theorem sortedNames_texts (names : List String) :
    sortedNames (names.map .str) = .ok (Text.join ", " (names.mergeSort fun a b => decide (a ≤ b))) := by
  rw [sortedNames,List.mapM_map]
  exact bind_ok.mpr ⟨names,(mapM_ok (g := id) fun name _ => rfl).trans (congrArg Except.ok (List.map_id names)),rfl⟩

theorem checkAvailability_answer (settings : Settings) (setOrder : SetOrder) {user : Response} (family : String → Response)
    (subjectSub : String) (world : σ) (record : SystemsRecord) (found : user.failed = false)
    (decoded : user.json = .ok record.body) : ∃ systems : List String, systems.Nodup ∧
      (∀ name, name ∈ systems ↔ Named record.body name) ∧
      (checkAvailability ⟨settings,setOrder,answering (observed user family)⟩ subjectSub).answer world = (do
        let _ ← systems.mapM (checked family)
        return availabilityOf (Clock.now world).1.value systems (failing family systems)) := by
  obtain ⟨systems,shape,nodup,member⟩ := nameSet_texts setOrder ((logins record.body).filterMap nameOf)
  refine ⟨systems,nodup,fun name => (member name).trans mem_names,?_⟩
  have results : (gather ((systems.map .str).map (checkManagedSystem (answering (observed user family))))).exec world =
      (systems.mapM (checked family),world) := by
    rw [List.map_map]
    exact gather_exec fun name _ => checkManagedSystem_exec user family name world
  have asked : (answering (σ := σ) (observed user family)).authorizedGet (userGet subjectSub) = pure user := rfl
  rw [checkAvailability]
  dsimp only
  rw [asked,Effect.answer_bind,Effect.answer_pure,Effect.after_pure,pure_bind,found,if_neg Bool.false_ne_true,decoded]
  simp only [Effect.answer_bind,Effect.answer_lift,Effect.after_lift,Effect.answer_lifted,Effect.after_lifted]
  have names : (record.body.field "principalList").items.filterMapM managedSysName = _ := record.names_ok
  rw [ok_bind,Json.get_field record.object,ok_bind,Json.orEmpty_elements record.principalList.1,ok_bind,names,ok_bind,shape,
    List.isEmpty_map]
  cases systems with
  | nil => rfl
  | cons first rest =>
    rw [List.isEmpty_cons,if_neg Bool.false_ne_true,Effect.answer_bind,Effect.answer,Effect.after,results]
    dsimp only
    cases known : (first::rest).mapM (checked family) with
    | error raised => rfl
    | ok replies =>
      rw [ok_bind,ok_bind,checked_success known,filter_failing,List.isEmpty_map,availabilityOf,
        if_neg (List.cons_ne_nil first rest)]
      cases down : failing family (first::rest) with
      | nil =>
        rw [List.isEmpty_nil,if_pos rfl,if_pos rfl,Effect.answer_bind,sortedNames_texts]
        rfl
      | cons name others =>
        rw [List.isEmpty_cons,if_neg Bool.false_ne_true,if_neg (List.cons_ne_nil name others),List.map_map]
        rfl

/-! ### The classification -/

/-- What the answer says of the systems of a user. -/
structure Classified (family : String → Response) (body : Json) (result : AvailabilityResult) : Prop where
  down : result.status = .down ↔ ∃ name, Named body name ∧ Failing (family name)
  detail : result.status = .down → ∃ systems : List String, systems.Nodup ∧
    (∀ name, name ∈ systems ↔ Named body name ∧ Failing (family name)) ∧
    result.detail = some ("Managed system(s) not working: " ++
      Text.join ", " (systems.map fun name => name ++ " (status not Ok)"))
  up : result.status ≠ .down → result.status = .up

theorem succeeds_checked {family : String → Response} {name : String} :
    Succeeds (checked family name) ↔ Succeeds (systemAnswer (family name)) := succeeds_return

theorem availabilityOf_down {checkedAt : Datetime} {names down : List String} (known : down ⊆ names) :
    (availabilityOf checkedAt names down).status = .down ↔ down ≠ [] := by
  rw [availabilityOf]
  by_cases none : names = []
  · have empty : down = [] := by
      rw [none] at known
      exact List.subset_nil.mp known
    simp [none,empty]
  · by_cases works : down = [] <;> simp [none,works]

theorem availabilityOf_classified {family : String → Response} {body : Json} {systems : List String} {checkedAt : Datetime}
    (nodup : systems.Nodup) (member : ∀ name, name ∈ systems ↔ Named body name)
    (answers : ∀ name ∈ systems, Succeeds (systemAnswer (family name))) :
    Classified family body (availabilityOf checkedAt systems (failing family systems)) := by
  have fails : ∀ name, name ∈ failing family systems ↔ Named body name ∧ Failing (family name) := by
    intro name
    rw [failing,List.mem_filter,member]
    refine and_congr_right fun named => ?_
    obtain ⟨known,answered⟩ := answers name ((member name).mpr named)
    rw [← systemAnswer_success answered,reading,answered]
    exact beq_iff_eq
  have within : failing family systems ⊆ systems := List.filter_sublist.subset
  refine ⟨?_,?_,?_⟩
  · rw [availabilityOf_down within]
    constructor
    · intro some
      obtain ⟨name,inside⟩ := List.exists_mem_of_ne_nil _ some
      exact ⟨name,(fails name).mp inside⟩
    · rintro ⟨name,bad⟩
      exact List.ne_nil_of_mem ((fails name).mpr bad)
  · intro down
    have some := (availabilityOf_down within).mp down
    obtain ⟨name,inside⟩ := List.exists_mem_of_ne_nil _ some
    refine ⟨failing family systems,nodup.filter _,fails,?_⟩
    rw [availabilityOf,if_neg (List.ne_nil_of_mem (within inside)),if_neg some]
  · intro other
    rw [availabilityOf] at other ⊢
    split
    · rfl
    next named =>
      split
      · rfl
      next down => simp [named,down] at other

section Found
variable (settings : Settings) (setOrder : SetOrder) {user : Response} (family : String → Response) (subjectSub : String)
variable (world : σ) (record : SystemsRecord)

theorem succeeds_checkAvailability (found : user.statusCode < 400) (decoded : user.json = .ok record.body) :
    Succeeds ((checkAvailability ⟨settings,setOrder,answering (observed user family)⟩ subjectSub).answer world) ↔
      ∀ name, Named record.body name → Succeeds (systemAnswer (family name)) := by
  obtain ⟨systems,_,member,answer⟩ := checkAvailability_answer settings setOrder family subjectSub world record
    (decide_eq_false (not_le.mpr found)) decoded
  rw [answer,succeeds_return,succeeds_mapM]
  simp only [member,succeeds_checked]

theorem checkAvailability_success (found : user.statusCode < 400) (decoded : user.json = .ok record.body)
    {result : AvailabilityResult}
    (ok : (checkAvailability ⟨settings,setOrder,answering (observed user family)⟩ subjectSub).answer world = .ok result) :
    Classified family record.body result := by
  obtain ⟨systems,nodup,member,answer⟩ := checkAvailability_answer settings setOrder family subjectSub world record
    (decide_eq_false (not_le.mpr found)) decoded
  rw [answer] at ok
  obtain ⟨results,looked,ok⟩ := bind_success ok
  rw [← pure_success ok]
  refine availabilityOf_classified nodup member fun name inside => ?_
  exact succeeds_checked.mp (succeeds_mapM.mp ⟨results,looked⟩ name inside)

end Found

theorem checkAvailability_failed (settings : Settings) (setOrder : SetOrder) {user : Response} (family : String → Response)
    (subjectSub : String) (world : σ) (failed : 400 ≤ user.statusCode) : ∃ result,
    (checkAvailability ⟨settings,setOrder,answering (observed user family)⟩ subjectSub).answer world = .ok result ∧
      result.status = .degraded := by
  have asked : (answering (σ := σ) (observed user family)).authorizedGet (userGet subjectSub) = pure user := rfl
  have error : user.failed = true := decide_eq_true failed
  rw [checkAvailability]
  dsimp only
  rw [asked,Effect.answer_bind,Effect.answer_pure,pure_bind,error,if_pos rfl,Effect.answer_bind,datetimeNow_answer,pure_bind]
  exact ⟨_,rfl,rfl⟩

/-- Nothing else of the user counts than the systems, and nothing else of them than the latest
reply; the logins may come in any order and any number. -/
theorem checkAvailability_classified (settings : Settings) (setOrder : SetOrder) (user : Response)
    (family : String → Response) (subjectSub : String) (world : σ) :
    let outcome := (checkAvailability ⟨settings,setOrder,answering (observed user family)⟩ subjectSub).answer world
    (400 ≤ user.statusCode → ∃ result, outcome = .ok result ∧ result.status = .degraded) ∧
    (user.statusCode < 400 → ∀ record : SystemsRecord, user.json = .ok record.body →
      (∀ result, outcome = .ok result → Classified family record.body result) ∧
      ((∀ name, Named record.body name → (family name).statusCode < 400 →
        ∃ dashboard : DashboardRecord, (family name).json = .ok dashboard.document) → Succeeds outcome) ∧
      ∀ (walk : SetOrder) (other : Response) (others : SystemsRecord) (later : σ), other.statusCode < 400 →
        other.json = .ok others.body → (∀ entry, entry ∈ logins others.body ↔ entry ∈ logins record.body) →
        ∀ result, outcome = .ok result → ∃ again,
          (checkAvailability ⟨settings,walk,answering (observed other family)⟩ subjectSub).answer later = .ok again ∧
            again.status = result.status) := by
  intro outcome
  refine ⟨checkAvailability_failed settings setOrder family subjectSub world,?_⟩
  intro found record decoded
  have classified : ∀ result, outcome = .ok result → Classified family record.body result := fun result =>
    checkAvailability_success settings setOrder family subjectSub world record found decoded
  have answers := succeeds_checkAvailability settings setOrder family subjectSub world record found decoded
  refine ⟨classified,?_,?_⟩
  · intro dashboards
    refine answers.mpr fun name named => ?_
    rw [systemAnswer]
    split
    · exact succeeds_ok none
    next succeeded =>
      obtain ⟨dashboard,read⟩ := dashboards name named (not_le.mp fun error => succeeded (decide_eq_true error))
      rw [read]
      exact dashboard.succeeds_systemReply
  · intro walk other others later foundOther decodedOther same result ok
    have named : ∀ name, Named others.body name ↔ Named record.body name := by
      intro name
      simp only [Named,same]
    have again := succeeds_checkAvailability settings walk family subjectSub later others foundOther decodedOther
    simp only [named] at again
    obtain ⟨second,reordered⟩ := again.mpr (answers.mp ⟨result,ok⟩)
    refine ⟨second,reordered,?_⟩
    have first := classified result ok
    have checkedAgain := checkAvailability_success settings walk family subjectSub later others foundOther decodedOther reordered
    by_cases down : result.status = .down
    · have failing := first.down.mp down
      simp only [← named] at failing
      rw [down,checkedAgain.down.mpr failing]
    · have works : second.status ≠ .down := by
        intro bad
        have failing := checkedAgain.down.mp bad
        simp only [named] at failing
        exact down (first.down.mpr failing)
      rw [checkedAgain.up works,first.up down]

/-- The check of a user of one managed system, and of what the dashboard says of it. -/
def checkOf (managedSys dashboard : Json) : Except Exn AvailabilityResult :=
  (checkAvailability ⟨⟨"https://iam",[]⟩,.insertion,answering (observed
    ⟨200,.ok (.obj [("principalList",.arr [.obj [("managedSys",managedSys)]])])⟩ fun _ => ⟨200,.ok dashboard⟩)⟩ "u-1").answer ()

theorem not_failing {document : Json} (silent : repliesOf document = []) (statusCode : Nat) : ¬Failing ⟨statusCode,.ok document⟩ := by
  rintro ⟨_,_,reply,decoded,latest,_⟩
  obtain rfl := Except.ok.inj decoded
  rw [silent] at latest
  exact no_latestReply latest

/-- No dashboard answer shows a failed test, and the check raises: over a managed system whose name
is a list, and over an answer of the dashboard that is one. -/
theorem ill_kinded_raise :
    (¬Failing ⟨200,.ok .null⟩ ∧ checkOf (.arr [.str "AD"]) .null = .error (Exn.typeError "unhashable type: 'list'")) ∧
      ¬Failing ⟨200,.ok (.arr [])⟩ ∧ checkOf (.str "AD") (.arr []) = .error (Exn.attributeError "list" "get") :=
  ⟨⟨not_failing rfl 200,rfl⟩,not_failing rfl 200,rfl⟩

end AccessAgent.OpenIAM
