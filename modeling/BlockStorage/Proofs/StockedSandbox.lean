import BlockStorage.Proofs.OrderlySandbox
import BlockStorage.Proofs.Stock

/-!
A cloud held in memory keeps a stock of volumes.

It makes up the ids of new drives by counting them (`fourDigits_injective`). An orderly cloud in which
none of the ids to come is taken therefore stores volumes and tags as it is told, whatever drives,
tags and courses of states it has (`storing_stocked`).
-/
namespace BlockStorage

namespace Sandbox

variable {w : Sandbox}

/-! ### Ids to come -/

/-- The id that is made up for the drive of a number. -/
def madeUp (n : Nat) : String := "vol-" ++ fourDigits n

/-- The digits of a number can be read, whatever zeros are in front of them. -/
theorem ofDigitChars_fourDigits (n : Nat) : Nat.ofDigitChars 10 (fourDigits n).toList 0 = n := by
  have hdigits : (fourDigits n).toList =
      List.replicate (4 - (toString n).length) '0' ++ Nat.toDigits 10 n := by
    unfold fourDigits
    rw [String.toList_append, String.toList_ofList, Nat.toString_eq_repr, Nat.toList_repr]
  rw [hdigits, Nat.ofDigitChars_append, Nat.ofDigitChars_replicate_zero, Nat.mul_zero,
    Nat.ofDigitChars_ten_toDigits]

/-- No two numbers are written alike. -/
theorem fourDigits_injective : Function.Injective fourDigits := by
  intro m n h
  rw [← ofDigitChars_fourDigits m, h, ofDigitChars_fourDigits]

theorem madeUp_injective : Function.Injective madeUp := by
  intro m n h
  apply fourDigits_injective
  have hlists := congrArg String.toList h
  simp only [madeUp, String.toList_append, List.append_cancel_left_eq] at hlists
  exact String.toList_injective hlists

/-! ### The stock -/

/-- What is kept of a drive. -/
def Drive.stored (d : Drive) : Stored where
  id := d.label
  size := match Storage.sizeOf d.size with
    | .ok size => size
    | .error _ => .null
  zone := Record.get (Table.merge [("zone", d.zone), ("instance_id", d.host)] d.extra) "zone"

/-- What the cloud keeps of volumes. -/
def stock (w : Sandbox) : Stock where
  volumes := w.drives.map Drive.stored
  tags id := match Value.find? (.text id) w.tags with
    | some (.tags ts) => ts
    | _ => []

/-- An orderly cloud that makes up the ids of its drives, gives them the sizes that are asked for, and
has no drive yet under an id to come. -/
structure Stocked (w : Sandbox) : Prop extends w.Orderly where
  sizes : w.createdSize = none
  ids : w.nextIds = []
  coming : ∀ n, w.created < n → madeUp n ∉ w.drives.map (·.label)

theorem ids_stock (w : Sandbox) : w.stock.ids = w.drives.map (·.label) := by
  unfold Stock.ids stock
  rw [List.map_map]
  rfl

/-- What is told of an orderly drive is what is kept of it. -/
theorem Drive.Orderly.tells {d : Drive} (h : d.Orderly) : d.shown.Tells d.stored where
  id := h.id
  size := by
    obtain ⟨size, hsize⟩ := Storage.sizeOf_plain h.size
    show Storage.sizeOf d.size = .ok (match Storage.sizeOf d.size with
      | .ok size => size
      | .error _ => .null)
    rw [hsize]
  zone := by
    refine ⟨_, ?_, rfl⟩
    show (d.told.getD _).orElse _ = _
    rw [h.told]
    exact Value.orElse_dict_self _
  state := h.plain.state

/-- What is told of tags is what is kept of them. -/
theorem Orderly.tells_tags (h : w.Orderly) (id : String) :
    ((Value.find? (.text id) w.tags).getD (.other .null)).Tells (w.stock.tags id) := by
  show TagSheet.Tells _ (match Value.find? (.text id) w.tags with
    | some (.tags ts) => ts
    | _ => [])
  cases hfound : Value.find? (.text id) w.tags with
  | none => exact .inr ⟨rfl, .null, rfl, rfl⟩
  | some sheet =>
    cases sheet with
    | tags ts => exact .inl rfl
    | other v =>
      unfold Value.find? at hfound
      obtain ⟨e, he, hsheet⟩ := Option.map_eq_some_iff.1 hfound
      have hplain := h.tags e (List.mem_of_find?_eq_some he)
      rw [hsheet] at hplain
      exact .inr ⟨rfl, v, rfl, hplain⟩

/-! ### Reading and changing -/

theorem Stocked.list (h : w.Stocked) (wanted : Drive → Bool) :
    Compute.Shows stock Stocked w.stock (w.list wanted).2 := by
  refine ⟨⟨(h.toOrderly.list wanted).1, h.sizes, h.ids, fun n hn => ?_⟩, ?_⟩
  · rw [w.map_list wanted fun d => rfl]
    exact h.coming n hn
  · unfold stock
    congr 1
    exact w.map_list wanted fun d => rfl

/-- A new drive is in stock under an id of its own. -/
theorem Stocked.create (h : w.Stocked) (n : Int) (zone : Value) :
    madeUp (w.created + 1) ∉ w.stock.ids ∧ (w.create (.int n) zone).1.id =
      .text (madeUp (w.created + 1)) ∧
      Compute.Shows stock Stocked (w.stock.add ⟨madeUp (w.created + 1), .int n, zone⟩)
        (w.create (.int n) zone).2 := by
  have hfresh : madeUp (w.created + 1) ∉ w.drives.map (·.label) :=
    h.coming _ (Nat.lt_succ_self _)
  have hdrive : (w.create (.int n) zone).1 =
      { id := .text (madeUp (w.created + 1)), size := .int n, zone, states := w.course.created } := by
    unfold Sandbox.create nextId
    rw [h.ids, h.sizes]
    rfl
  have hdrives : (w.create (.int n) zone).2.drives = w.drives ++ [(w.create (.int n) zone).1] := rfl
  have hlabels : (w.create (.int n) zone).2.drives.map (·.label) =
      w.drives.map (·.label) ++ [madeUp (w.created + 1)] := by
    rw [hdrives, List.map_append, hdrive]
    rfl
  refine ⟨?_, ?_, ⟨⟨h.latencies, h.troubles, ⟨h.hosts.plain, h.hosts.labelled, h.hosts.named⟩,
    fun d hd => ?_, ?_, h.course, h.tags⟩, h.sizes, ?_, fun m hm => ?_⟩, ?_⟩
  · rw [ids_stock]
    exact hfresh
  · rw [hdrive]
  · rw [hdrives, hdrive] at hd
    rcases List.mem_append.1 hd with hd | hd
    · exact h.drives d hd
    · rw [List.mem_singleton.1 hd]
      exact ⟨rfl, .inr (.inl ⟨n, rfl⟩), fun v hv => h.course v (by simp [hv]), rfl⟩
  · rw [hlabels]
    exact List.nodup_append'.2 ⟨h.once, List.nodup_singleton _, by simpa using hfresh⟩
  · show w.nextIds.tail = []
    rw [h.ids]
    rfl
  · rw [hlabels, List.mem_append, List.mem_singleton]
    rintro (hm' | hm')
    · exact h.coming m (Nat.lt_of_succ_lt hm) hm'
    · exact absurd (madeUp_injective hm') (Nat.ne_of_gt hm)
  · unfold stock Stock.add
    rw [hdrives, hdrive, List.map_append]
    rfl

/-- Tags are found under the id under which they were put, and those under others as before. -/
theorem find?_setTags (w : Sandbox) (id t : String) (sheet : TagSheet) :
    Value.find? (.text t) (w.setTags (.text id) (some sheet)).tags =
      if t = id then some sheet else Value.find? (.text t) w.tags := by
  unfold Value.find? setTags
  dsimp only
  rw [List.find?_cons, Value.equal_text_text]
  by_cases ht : t = id
  · subst ht
    simp
  · have hother : (id == t) = false := by simpa using Ne.symm ht
    rw [hother, if_neg ht, List.find?_filter]
    show (w.tags.find? _).map _ = (w.tags.find? _).map _
    congr 2
    funext e
    cases he : e.1.equal (.text t) with
    | false => simp
    | true =>
      rw [Value.equal_text_iff.1 he]
      simpa using ht

/-- Tags that are added are in stock. -/
theorem Stocked.addTags (h : w.Stocked) (id : String) (new : Tags) :
    Compute.Shows stock Stocked (w.stock.tag id new) (w.addTags (.text id) new) := by
  refine ⟨⟨⟨h.latencies, h.troubles, h.hosts, h.drives, h.once, h.course, fun e he => ?_⟩, h.sizes,
    h.ids, h.coming⟩, ?_⟩
  · rcases List.mem_cons.1 he with rfl | he
    · trivial
    · exact h.tags e (List.mem_filter.1 he).1
  · show Stock.mk _ _ = Stock.mk _ _
    congr 1
    funext t
    unfold Sandbox.addTags
    rw [find?_setTags]
    by_cases ht : t = id
    · subst ht
      rw [if_pos rfl, if_pos rfl]
      rfl
    · rw [if_neg ht, if_neg ht]
      rfl

/-! ### The contract -/

open Compute Storage

/-- **A cloud held in memory stores volumes and tags**, if it is orderly. -/
theorem storing_stocked {settings : Settings} {name : Value}
    (hdriver : Session.driverOf settings = .ok name) :
    Storing (context settings) stock Stocked where
  toViewed := viewed_calm hdriver (fun _ hw => hw.calm) (fun _ wanted hw => hw.list wanted)
    fun _ clock hw => ⟨⟨hw.in_time clock, hw.sizes, hw.ids, hw.coming⟩, rfl⟩
  once w hw := by
    rw [ids_stock]
    exact hw.once
  volumes _ w hw := by
    refine ⟨w.drives.map Drive.shown, listDisks_of_calm hw.calm, ?_⟩
    show List.Forall₂ Disk.Tells _ (w.drives.map Drive.stored)
    rw [List.forall₂_map_left_iff, List.forall₂_map_right_iff, List.forall₂_same]
    exact fun d hd => (hw.drives d hd).tells
  tags _ id w hw := by
    refine ⟨_, ?_, hw.tells_tags id⟩
    show (respond (.describeTags (.text id)) w).1 = _
    rw [hw.calm.respond]
    rfl
  create _ size zone kind w receipt hw hanswer := by
    replace hanswer : (respond (.submitCreate size zone kind) w).1 = .ok receipt := hanswer
    show ∃ id n, _ ∧ _ ∧ _ ∧ Shows stock Stocked _ (respond (.submitCreate size zone kind) w).2
    rw [hw.calm.respond] at hanswer ⊢
    unfold act at hanswer ⊢
    dsimp only at hanswer ⊢
    cases hsize : (Value.text size).toInteger with
    | error f =>
      rw [hsize] at hanswer
      cases hanswer
    | ok n =>
      rw [hsize] at hanswer
      cases hanswer
      obtain ⟨hfresh, hid, hshows⟩ := hw.create n zone
      exact ⟨_, n, hid, hfresh, rfl, hshows⟩
  receipt _ receipt w disk hw hanswer := by
    replace hanswer : (respond (.readReceipt receipt) w).1 = .ok disk := hanswer
    show _ ∧ Shows stock Stocked _ (respond (.readReceipt receipt) w).2
    rw [hw.calm.respond] at hanswer ⊢
    cases hanswer
    exact ⟨rfl, hw, rfl⟩
  tag _ id new w hw _ := by
    show Shows stock Stocked _ (respond (.createTags (.text id) new) w).2
    rw [hw.calm.respond]
    exact hw.addTags id new

end Sandbox

end BlockStorage
