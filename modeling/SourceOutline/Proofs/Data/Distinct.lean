import SourceOutline.Data.Yaml
import SourceOutline.Proofs.Data.Merge
import Mathlib.Data.List.Induction

/-!
# The keys of a mapping that was read

A mapping of a settings file has each key once, however its entries are written or taken
over from other mappings, and the same holds of every mapping inside it.  Numbers that are
equal count as one key however they are written; texts are the same key only if they are
equal.
-/

namespace SourceOutline
namespace Entries

/-- No two keys are the same. -/
def Apart (entries : Entries) : Prop :=
  (entries.map Prod.fst).Pairwise fun first second => ¬ first.same second

/-- Keys that are texts come once where no two keys are the same. -/
theorem Apart.keyed {entries : Entries} (hentries : entries.Apart)
    (htexts : ∀ entry ∈ entries, ∃ text, entry.1 = .text text) : entries.Keyed := by
  apply List.Pairwise.imp_of_mem _ hentries
  rintro first second hfirst hsecond hapart rfl
  obtain ⟨entry, hentry, rfl⟩ := List.mem_map.mp hfirst
  obtain ⟨text, htext⟩ := htexts entry hentry
  simp [htext, Key.same] at hapart

end Entries

/-- No mapping in a value, at any depth, has a key twice. -/
inductive Value.Distinct : Value → Prop
  | map {entries : Entries} (hkeys : entries.Apart)
      (hvalues : ∀ entry ∈ entries, entry.2.Distinct) : Distinct (.map entries)
  | list {items : List Value} (hitems : ∀ item ∈ items, item.Distinct) : Distinct (.list items)
  | plain {value : Value} (hmap : ∀ entries, value ≠ .map entries)
      (hlist : ∀ items, value ≠ .list items) : Distinct value

/-- The values of a mapping are distinct at every depth. -/
def Entries.DistinctInside (entries : Entries) : Prop :=
  ∀ entry ∈ entries, entry.2.Distinct

theorem Value.Distinct.of_map {entries : Entries} (hvalue : (Value.map entries).Distinct) :
    entries.Apart ∧ entries.DistinctInside := by
  cases hvalue with
  | map hkeys hvalues => exact ⟨hkeys, hvalues⟩
  | plain hmap => exact absurd rfl (hmap entries)

theorem Value.Distinct.of_list {items : List Value} (hvalue : (Value.list items).Distinct) :
    ∀ item ∈ items, item.Distinct := by
  cases hvalue with
  | list hitems => exact hitems
  | plain _ hlist => exact absurd rfl (hlist items)

namespace Yaml

theorem Built.both_eq_ok {α β : Type} {first : Built α} {second : Built β} {pair : α × β} :
    Built.both first second = .ok pair ↔ first = .ok pair.1 ∧ second = .ok pair.2 := by
  obtain ⟨a, b⟩ := pair
  cases first <;> cases second <;> simp [Built.both]

theorem Built.inside_eq_ok {α : Type} {built : Built α} {value : α} :
    Built.inside built = .ok value ↔ built = .ok value := by
  cases built <;> simp [Built.inside]

theorem Built.map_eq_ok {α β : Type} {f : α → β} {built : Built α} {result : β} :
    Except.map f built = .ok result ↔ ∃ value, built = .ok value ∧ f value = result := by
  cases built <;> simp [Except.map]

theorem Built.bind_eq_ok {α β : Type} {built : Built α} {next : α → Built β} {result : β} :
    built >>= next = .ok result ↔ ∃ value, built = .ok value ∧ next value = .ok result := by
  cases built <;> simp [bind, Except.bind]

/-- A scalar holds no mapping with a key twice. -/
theorem distinct_scalarValue {tag : Tag} {text : String} {value : Value}
    (hbuilt : Built.ofExcept (scalarValue tag text) = .ok value) : value.Distinct := by
  have hscalar : scalarValue tag text = .ok value := by
    cases hread : scalarValue tag text with
    | ok scalar =>
        rw [hread] at hbuilt
        rw [Except.ok.inj hbuilt]
    | error fault =>
        rw [hread] at hbuilt
        contradiction
  have hmap {α : Type} {f : α → Value} {read : Except Fault α}
      (hread : read.map f = .ok value) : ∃ a, value = f a := by
    cases read with
    | ok a => exact ⟨a, (Except.ok.inj hread).symm⟩
    | error fault => contradiction
  unfold scalarValue at hscalar
  split at hscalar
  next => cases hscalar; exact .plain (by simp) (by simp)
  next => obtain ⟨_, rfl⟩ := hmap hscalar; exact .plain (by simp) (by simp)
  next => obtain ⟨_, rfl⟩ := hmap hscalar; exact .plain (by simp) (by simp)
  next => obtain ⟨_, rfl⟩ := hmap hscalar; exact .plain (by simp) (by simp)
  next => cases hscalar; exact .plain (by simp) (by simp)
  next => obtain ⟨_, rfl⟩ := hmap hscalar; exact .plain (by simp) (by simp)
  next =>
    cases hdecoded : Base64.decode? text.toList with
    | none =>
        rw [hdecoded] at hscalar
        contradiction
    | some content =>
        rw [hdecoded] at hscalar
        cases hscalar
        exact .plain (by simp) (by simp)
  next => contradiction

theorem joined_distinct {lent own : Entries} (hlent : lent.DistinctInside)
    (hown : own.DistinctInside) : (Value.map (joined lent own)).Distinct := by
  have hboth : (lent ++ own).DistinctInside := by
    intro entry hentry
    exact (List.mem_append.mp hentry).elim (hlent entry) (hown entry)
  -- Writing one entry after the other keeps the keys apart and the values distinct.
  have hfold (entries written : Entries) (hentries : entries.DistinctInside)
      (hwritten : (Value.map written).Distinct) :
      (Value.map (entries.foldl (fun out entry => Entries.write out entry.1 entry.2) written)).Distinct := by
    induction entries generalizing written with
    | nil => exact hwritten
    | cons entry rest ih =>
        obtain ⟨hkeys, hvalues⟩ := hwritten.of_map
        apply ih _ (fun other hother => hentries other (List.mem_cons_of_mem entry hother))
        simp only [Entries.write_eq_putBy]
        apply Value.Distinct.map (pairwise_putBy hkeys entry.1 entry.2)
        intro other hother
        rcases mem_putBy hother with hold | ⟨hvalue, _⟩
        · exact hvalues other hold
        · rw [hvalue]
          exact hentries entry List.mem_cons_self
  exact hfold (lent ++ own) [] hboth (.map List.Pairwise.nil (by simp))

theorem lent?_distinctInside {value : Value} (hvalue : value.Distinct) {entries : Entries}
    (hlent : lent? value = some entries) : entries.DistinctInside := by
  cases value with
  | map own =>
      obtain rfl := Option.some.inj hlent
      exact hvalue.of_map.2
  | list items =>
      have hitems := hvalue.of_list
      clear hvalue
      induction items using List.reverseRecOn generalizing entries with
      | nil =>
          obtain rfl := Option.some.inj hlent
          simp [Entries.DistinctInside]
      | append_singleton items item ih =>
          rw [List.forall_mem_append, List.forall_mem_singleton] at hitems
          simp only [lent?] at hlent
          rw [List.foldl_append, List.foldl_cons, List.foldl_nil] at hlent
          split at hlent
          next lent more hbefore =>
            obtain rfl := Option.some.inj hlent
            have hlent : lent.DistinctInside := ih hbefore hitems.1
            intro entry hentry
            exact (List.mem_append.mp hentry).elim (hitems.2.of_map.2 entry) (hlent entry)
          next => contradiction
  | _ => contradiction

theorem buildPairs_plain {loops : Loops} {nodes : List Node} {values : List Value}
    (hbuilt : buildPairs loops nodes = .ok values) : ∀ value ∈ values, value.Distinct := by
  have hpair {node : Node} {value : Value} (hbuilt : node.buildPair loops = .ok value) :
      value.Distinct := by
    cases node with
    | map tag entries =>
        rw [Node.buildPair] at hbuilt
        cases entries with
        | nil =>
            rw [buildOnlyPair] at hbuilt
            contradiction
        | cons entry rest =>
            rw [buildOnlyPair] at hbuilt
            split at hbuilt
            next =>
              obtain ⟨pair, _, rfl⟩ := Built.map_eq_ok.mp hbuilt
              exact .plain (by simp) (by simp)
            next => contradiction
    | _ =>
        rw [Node.buildPair] at hbuilt
        · contradiction
        all_goals simp
  induction nodes generalizing values with
  | nil =>
      rw [buildPairs] at hbuilt
      cases hbuilt
      simp
  | cons node rest ih =>
      rw [buildPairs] at hbuilt
      obtain ⟨pair, hboth, rfl⟩ := Built.map_eq_ok.mp hbuilt
      obtain ⟨hfirst, hrest⟩ := Built.both_eq_ok.mp hboth
      exact List.forall_mem_cons.mpr ⟨hpair hfirst, ih hrest⟩

mutual
theorem Node.build_distinct {loops : Loops} {node : Node} {value : Value}
    (hbuilt : node.build loops = .ok value) : value.Distinct := by
  match node with
  | .scalar tag text =>
      rw [Node.build] at hbuilt
      exact distinct_scalarValue hbuilt
  | .list tag items =>
      rw [Node.build] at hbuilt
      split at hbuilt
      next =>
        obtain ⟨values, hitems, rfl⟩ := Built.map_eq_ok.mp hbuilt
        exact .list (buildItems_distinct (Built.inside_eq_ok.mp hitems))
      next =>
        split at hbuilt
        next =>
          obtain ⟨values, hitems, rfl⟩ := Built.map_eq_ok.mp hbuilt
          exact .list (buildPairs_plain (Built.inside_eq_ok.mp hitems))
        next => contradiction
  | .map tag entries =>
      rw [Node.build] at hbuilt
      split at hbuilt
      next =>
        obtain ⟨⟨lent, own⟩, hentries, rfl⟩ := Built.map_eq_ok.mp hbuilt
        obtain ⟨hlent, hown⟩ := buildEntries_distinct (Built.inside_eq_ok.mp hentries)
        exact joined_distinct hlent hown
      next =>
        split at hbuilt
        next =>
          obtain ⟨⟨lent, own⟩, hentries, rfl⟩ := Built.map_eq_ok.mp hbuilt
          exact .plain (by simp) (by simp)
        next =>
          split at hbuilt
          next =>
            split at hbuilt
            next => exact distinct_scalarValue hbuilt
            next => contradiction
          next => contradiction
  | .loop anchor =>
      rw [Node.build] at hbuilt
      split at hbuilt
      next =>
        cases hbuilt
        exact .plain (by simp) (by simp)
      next => contradiction
  | .anchored anchor node =>
      rw [Node.build] at hbuilt
      cases honce : node.build ((anchor, node.isMap, "") :: loops) with
      | ok once =>
          rw [honce] at hbuilt
          exact Node.build_distinct hbuilt
      | error fault =>
          rw [honce] at hbuilt
          contradiction

theorem buildItems_distinct {loops : Loops} {nodes : List Node} {values : List Value}
    (hbuilt : buildItems loops nodes = .ok values) : ∀ value ∈ values, value.Distinct := by
  match nodes with
  | [] =>
      rw [buildItems] at hbuilt
      cases hbuilt
      simp
  | node :: rest =>
      rw [buildItems] at hbuilt
      obtain ⟨pair, hboth, rfl⟩ := Built.map_eq_ok.mp hbuilt
      obtain ⟨hfirst, hrest⟩ := Built.both_eq_ok.mp hboth
      exact List.forall_mem_cons.mpr ⟨Node.build_distinct hfirst, buildItems_distinct hrest⟩

theorem buildEntries_distinct {loops : Loops} {nodes : List (Node × Node)} {lent own : Entries}
    (hbuilt : buildEntries loops nodes = .ok (lent, own)) :
    lent.DistinctInside ∧ own.DistinctInside := by
  match nodes with
  | [] =>
      rw [buildEntries] at hbuilt
      cases hbuilt
      simp [Entries.DistinctInside]
  | (key, node) :: rest =>
      rw [buildEntries] at hbuilt
      obtain ⟨⟨⟨keyValue, value⟩, lent', own'⟩, hboth, hbuilt⟩ := Built.bind_eq_ok.mp hbuilt
      obtain ⟨hentry, hrest⟩ := Built.both_eq_ok.mp hboth
      have hvalue : value.Distinct := Node.build_distinct (Built.both_eq_ok.mp hentry).2
      obtain ⟨hlent, hown⟩ := buildEntries_distinct hrest
      simp only at hbuilt
      split at hbuilt
      next =>
        -- The value of a merge key lends its entries.
        split at hbuilt
        next entries hentries =>
          cases hbuilt
          refine ⟨?_, hown⟩
          have hentries := lent?_distinctInside hvalue hentries
          intro entry hentry
          exact (List.mem_append.mp hentry).elim (hentries entry) (hlent entry)
        next => contradiction
      next =>
        have hown' (key : Key) : Entries.DistinctInside ((key, value) :: own') :=
          List.forall_mem_cons.mpr ⟨hvalue, hown⟩
        split at hbuilt
        next => cases hbuilt; exact ⟨hlent, hown' _⟩
        next => cases hbuilt; exact ⟨hlent, hown' _⟩
        next => contradiction
end

theorem read_distinct {text : List Char} {value : Value} (hread : read text = .ok value) :
    value.Distinct := by
  unfold read at hread
  simp only at hread
  split at hread
  next =>
    split at hread
    next tokens _ =>
      cases hnode : Node.ofTokens tokens with
      | error fault =>
          rw [hnode] at hread
          contradiction
      | ok node =>
          rw [hnode] at hread
          change node.value = .ok value at hread
          unfold Node.value at hread
          split at hread
          next built hbuilt =>
            cases hread
            exact Node.build_distinct hbuilt
          next => contradiction
    next => contradiction
  next => contradiction

end Yaml
end SourceOutline
