/-
A store is what its history says.

What a store answers and in which order it lists its names depends on everything that was done to it:
which value came last, what has been removed or cleared since, and when a name came in that was not
there.  Here that is told from the history alone, as a list of changes.  `LastPut` says which value
counts, `Entered` says since when a name has been there, and neither knows of stores.

A store reflects its history if it answers as `LastPut` says and lists the names in the order in which
they entered.  The empty store reflects the empty history, each change keeps it so, and from that a
store reflects any history.  The entries that a store begins with are the first changes of its history.
-/
import Reckon.Proofs.Store.Entries
import Reckon.Proofs.Store.Asking

namespace Reckon.Store

/-! ### Changes -/

/-- A change to a store. -/
inductive Change
  | put (name : Text) (v : Value)
  | remove (name : Text)
  | clear

namespace Change

/-- The change takes the name away, if it is there. -/
def Drops (name : Text) : Change → Prop
  | put _ _ => False
  | remove other => other = name
  | clear => True

/-- The change is about the name, as a clearing is about every name. -/
def Concerns (name : Text) : Change → Prop
  | put other _ => other = name
  | remove other => other = name
  | clear => True

end Change

/-- The store after a change. -/
def change (s : Store) : Change → Store
  | .put name v => s.insert name v
  | .remove name => s.erase name
  | .clear => empty

/-- The store after some changes, one after the other. -/
def after (s : Store) (changes : List Change) : Store := changes.foldl change s

/-! ### Histories -/

/-- The value is the one that the name was given last, and nothing has taken it away since. -/
def LastPut (history : List Change) (name : Text) (v : Value) : Prop :=
  ∃ before later, history = before ++ .put name v :: later ∧ ∀ c ∈ later, ¬c.Concerns name

/-- The name has been there since the change of number `i`, before which it was not there. -/
def Entered (history : List Change) (name : Text) (i : Nat) : Prop :=
  ∃ before v later, history = before ++ .put name v :: later ∧ before.length = i ∧
    (∀ w, ¬LastPut before name w) ∧ ∀ c ∈ later, ¬c.Drops name

section History

variable {history : List Change} {c : Change} {name : Text} {v : Value} {i j : Nat}

/-- The last of some changes is the one that is looked for, or comes later than that. -/
theorem concat_eq_append_cons {before later : List Change} {d : Change} :
    history ++ [c] = before ++ d :: later ↔
      history = before ∧ c = d ∧ later = [] ∨
        ∃ more, later = more ++ [c] ∧ history = before ++ d :: more := by
  constructor
  · intro h
    rcases List.eq_nil_or_concat later with rfl | ⟨more, last, rfl⟩
    · obtain ⟨rfl, hd⟩ := List.append_inj' h rfl
      cases hd
      exact .inl ⟨rfl, rfl, rfl⟩
    · rw [List.concat_eq_append, ← List.cons_append, ← List.append_assoc] at h
      obtain ⟨rfl, hlast⟩ := List.append_inj' h rfl
      cases hlast
      exact .inr ⟨more, List.concat_eq_append, rfl⟩
  · rintro (⟨rfl, rfl, rfl⟩ | ⟨more, rfl, rfl⟩)
    · rfl
    · rw [List.append_assoc, List.cons_append]

theorem not_lastPut_nil : ¬LastPut [] name v := by
  rintro ⟨before, later, h, -⟩
  simp at h

theorem lastPut_concat :
    LastPut (history ++ [c]) name v ↔ c = .put name v ∨ LastPut history name v ∧ ¬c.Concerns name := by
  constructor
  · rintro ⟨before, later, h, hlater⟩
    rcases concat_eq_append_cons.mp h with ⟨-, rfl, -⟩ | ⟨more, rfl, rfl⟩
    · exact .inl rfl
    · rw [List.forall_mem_append] at hlater
      exact .inr ⟨⟨before, more, rfl, hlater.1⟩, hlater.2 c (List.mem_singleton_self c)⟩
  · rintro (rfl | ⟨⟨before, more, rfl, hmore⟩, hc⟩)
    · exact ⟨history, [], rfl, by simp⟩
    · refine ⟨before, more ++ [c], by rw [List.append_assoc, List.cons_append], ?_⟩
      exact List.forall_mem_append.mpr ⟨hmore, by simpa using hc⟩

theorem not_entered_nil : ¬Entered [] name i := by
  rintro ⟨before, w, later, h, -⟩
  simp at h

theorem entered_concat :
    Entered (history ++ [c]) name i ↔
      Entered history name i ∧ ¬c.Drops name ∨
        i = history.length ∧ (∃ v, c = .put name v) ∧ ∀ v, ¬LastPut history name v := by
  constructor
  · rintro ⟨before, v, later, h, rfl, habsent, hlater⟩
    rcases concat_eq_append_cons.mp h with ⟨rfl, rfl, -⟩ | ⟨more, rfl, rfl⟩
    · exact .inr ⟨rfl, ⟨v, rfl⟩, habsent⟩
    · rw [List.forall_mem_append] at hlater
      exact .inl ⟨⟨before, v, more, rfl, rfl, habsent, hlater.1⟩, hlater.2 c (List.mem_singleton_self c)⟩
  · rintro (⟨⟨before, v, more, rfl, rfl, habsent, hmore⟩, hc⟩ | ⟨rfl, ⟨v, rfl⟩, habsent⟩)
    · refine ⟨before, v, more ++ [c], by rw [List.append_assoc, List.cons_append], rfl, habsent, ?_⟩
      exact List.forall_mem_append.mpr ⟨hmore, by simpa using hc⟩
    · exact ⟨history, v, [], rfl, rfl, habsent, by simp⟩

/-- A name has a value exactly if it entered at some time. -/
theorem exists_lastPut_iff_exists_entered (history : List Change) (name : Text) :
    (∃ v, LastPut history name v) ↔ ∃ i, Entered history name i := by
  induction history using List.reverseRecOn with
  | nil => simp [not_lastPut_nil, not_entered_nil]
  | append_singleton history c ih =>
      simp only [lastPut_concat, entered_concat]
      constructor
      · rintro ⟨v, rfl | ⟨hv, hc⟩⟩
        · by_cases hpresent : ∃ w, LastPut history name w
          · obtain ⟨i, hi⟩ := ih.mp hpresent
            exact ⟨i, .inl ⟨hi, id⟩⟩
          · exact ⟨history.length, .inr ⟨rfl, ⟨v, rfl⟩, not_exists.mp hpresent⟩⟩
        · obtain ⟨i, hi⟩ := ih.mp ⟨v, hv⟩
          refine ⟨i, .inl ⟨hi, fun hdrops => hc ?_⟩⟩
          cases c with
          | put => cases hdrops
          | remove => exact hdrops
          | clear => trivial
      · rintro ⟨i, ⟨hi, hc⟩ | ⟨-, ⟨v, rfl⟩, -⟩⟩
        · obtain ⟨v, hv⟩ := ih.mpr ⟨i, hi⟩
          cases c with
          | put other w =>
              by_cases hother : other = name
              · exact ⟨w, .inl (by rw [hother])⟩
              · exact ⟨v, .inr ⟨hv, hother⟩⟩
          | remove => exact ⟨v, .inr ⟨hv, hc⟩⟩
          | clear => exact absurd trivial hc
        · exact ⟨v, .inl rfl⟩

theorem Entered.lt_length (h : Entered history name i) : i < history.length := by
  obtain ⟨before, v, later, rfl, rfl, -⟩ := h
  simp

theorem Entered.unique (hi : Entered history name i) (hj : Entered history name j) : i = j := by
  induction history using List.reverseRecOn with
  | nil => exact absurd hi not_entered_nil
  | append_singleton history c ih =>
      have hpresent : ∀ {k}, Entered history name k → ¬∀ v, ¬LastPut history name v := fun hk habsent =>
        not_exists.mpr habsent ((exists_lastPut_iff_exists_entered history name).mpr ⟨_, hk⟩)
      rcases entered_concat.mp hi with ⟨hi, -⟩ | ⟨rfl, -, habsent⟩
      · rcases entered_concat.mp hj with ⟨hj, -⟩ | ⟨-, -, habsent⟩
        · exact ih hi hj
        · exact absurd habsent (hpresent hi)
      · rcases entered_concat.mp hj with ⟨hj, -⟩ | ⟨rfl, -, -⟩
        · exact absurd habsent (hpresent hj)
        · rfl

end History

/-! ### Stores that reflect their history -/

/-- The store answers with the values that were put last, and lists the names in the order in which they
entered. -/
structure Reflects (history : List Change) (s : Store) : Prop where
  value : ∀ name v, s.get? name = some v ↔ LastPut history name v
  ordered : s.names.Pairwise fun a b => ∀ i j, Entered history a i → Entered history b j → i < j

namespace Reflects

variable {history : List Change} {s : Store}

theorem mem_names (h : Reflects history s) {name : Text} :
    name ∈ s.names ↔ ∃ v, LastPut history name v := by
  simp only [Store.mem_names, h.value]

theorem exists_entered (h : Reflects history s) {name : Text} (hname : name ∈ s.names) :
    ∃ i, Entered history name i :=
  (exists_lastPut_iff_exists_entered history name).mp (h.mem_names.mp hname)

/-- Names that entered at different times are different. -/
theorem nodup (h : Reflects history s) : s.names.Nodup := by
  refine h.ordered.imp_of_mem fun {a b} ha _ hbefore hab => ?_
  subst hab
  obtain ⟨i, hi⟩ := h.exists_entered ha
  exact absurd (hbefore i i hi hi) (Nat.lt_irrefl i)

/-- Names that were listed before a change and still are stand in the same order after it. -/
theorem ordered_concat (h : Reflects history s) (c : Change) {names : List Text}
    (hnames : names.Sublist s.names) :
    names.Pairwise fun a b =>
      ∀ i j, Entered (history ++ [c]) a i → Entered (history ++ [c]) b j → i < j := by
  have hold : ∀ {name i}, name ∈ names → Entered (history ++ [c]) name i → Entered history name i := by
    intro name i hname hi
    rcases entered_concat.mp hi with ⟨hi, -⟩ | ⟨-, -, habsent⟩
    · exact hi
    · exact absurd (h.mem_names.mp (hnames.subset hname)) (not_exists.mpr habsent)
  refine (h.ordered.sublist hnames).imp_of_mem fun ha hb hbefore i j hi hj => ?_
  exact hbefore i j (hold ha hi) (hold hb hj)

theorem insert (h : Reflects history s) (name : Text) (v : Value) :
    Reflects (history ++ [.put name v]) (s.insert name v) where
  value := by
    intro other w
    rw [get?_insert, lastPut_concat, ← h.value]
    by_cases hother : other = name
    · subst hother
      simp [Change.Concerns]
    · simp [Function.update_of_ne hother, Change.Concerns, Ne.symm hother]
  ordered := by
    rw [names_insert]
    split
    · exact h.ordered_concat _ (List.Sublist.refl _)
    · rename_i hname
      refine List.pairwise_append.mpr ⟨h.ordered_concat _ (List.Sublist.refl _), by simp, ?_⟩
      intro a ha b hb i j hi hj
      obtain rfl := List.mem_singleton.mp hb
      have hpresent := h.mem_names.mp ha
      have habsent := mt h.mem_names.mpr hname
      -- The name that is new is the only one that enters now.
      rcases entered_concat.mp hi with ⟨hi, -⟩ | ⟨-, -, hnot⟩
      · rcases entered_concat.mp hj with ⟨hj, -⟩ | ⟨rfl, -, -⟩
        · exact absurd ((exists_lastPut_iff_exists_entered _ _).mpr ⟨j, hj⟩) habsent
        · exact hi.lt_length
      · exact absurd hpresent (not_exists.mpr hnot)

theorem erase (h : Reflects history s) (name : Text) :
    Reflects (history ++ [.remove name]) (s.erase name) where
  value := by
    intro other w
    rw [get?_erase, lastPut_concat, ← h.value]
    by_cases hother : other = name
    · subst hother
      simp [Change.Concerns]
    · simp [Function.update_of_ne hother, Change.Concerns, Ne.symm hother]
  ordered := by
    rw [names_erase]
    exact h.ordered_concat _ List.filter_sublist

theorem clear (history : List Change) : Reflects (history ++ [.clear]) empty where
  value := by
    intro name v
    rw [lastPut_concat]
    simp [get?, empty, Change.Concerns]
  ordered := .nil

/-- Every change keeps a store in step with its history. -/
theorem change (h : Reflects history s) (c : Change) : Reflects (history ++ [c]) (s.change c) := by
  cases c with
  | put name v => exact h.insert name v
  | remove name => exact h.erase name
  | clear => exact clear history

theorem nil : Reflects [] empty where
  value := by
    intro name v
    simp [get?, empty, not_lastPut_nil]
  ordered := .nil

theorem after (h : Reflects history s) (changes : List Change) :
    Reflects (history ++ changes) (s.after changes) := by
  induction changes generalizing history s with
  | nil => rwa [List.append_nil]
  | cons c rest ih =>
      rw [List.append_cons]
      exact ih (h.change c)

end Reflects

/-- Beginning with some entries is putting them, one after the other. -/
theorem ofList_eq_after (entries : List (Text × Value)) :
    ofList entries = empty.after (entries.map fun (name, v) => .put name v) := by
  unfold ofList after
  rw [List.foldl_map]
  rfl

/-! ### What a change does not touch -/

theorem get?_change {s : Store} {c : Change} {name : Text} (h : ¬c.Concerns name) :
    (s.change c).get? name = s.get? name := by
  cases c with
  | put other v =>
      rw [Store.change, get?_insert, Function.update_of_ne (Ne.symm h)]
  | remove other =>
      rw [Store.change, get?_erase, Function.update_of_ne (Ne.symm h)]
  | clear => exact absurd trivial h

/-- Changes that are about other names do not change what is found under a name. -/
theorem get?_after {s : Store} {name : Text} {changes : List Change}
    (h : ∀ c ∈ changes, ¬c.Concerns name) : (s.after changes).get? name = s.get? name := by
  induction changes generalizing s with
  | nil => rfl
  | cons c rest ih =>
      have hrest := ih (s := s.change c) fun d hd => h d (List.mem_cons_of_mem c hd)
      exact hrest.trans (get?_change (h c List.mem_cons_self))

/-! ### Histories of stores -/

/--
**A store reflects its whole history.**

Whatever entries a store begins with and whatever is put, removed and cleared then, it answers for a
name with the value that was put last, if nothing has taken that away since, and only then the name is
present.  It lists each present name once, in the order of the times at which they entered, so that a
new value keeps the place of its name, and a name that is removed and put again moves to the end.
Changes that are about other names leave the answer for a name as it is, and evaluating an equation
leaves the whole store as it is.
-/
theorem after_history (initial : List (Text × Value)) (changes : List Change) :
    let history := initial.map (fun (name, v) => Change.put name v) ++ changes
    let s := (ofList initial).after changes
    (∀ name v, s.get? name = some v ↔ LastPut history name v) ∧
    (∀ name, s.contains name = true ↔ ∃ v, LastPut history name v) ∧
    (∀ name, name ∈ s.names ↔ s.contains name = true) ∧
    s.names.Nodup ∧
    (∀ name ∈ s.names, ∃! i, Entered history name i) ∧
    s.names.Pairwise (fun a b => ∀ i j, Entered history a i → Entered history b j → i < j) ∧
    (∀ name ∈ s.names, ∀ v, (s.insert name v).names = s.names) ∧
    (∀ name v, ((s.erase name).insert name v).names = s.names.filter (· != name) ++ [name]) ∧
    s.size = s.names.length ∧
    (∀ name more, (∀ c ∈ more, ¬Change.Concerns name c) → (s.after more).get? name = s.get? name) ∧
    ∀ e : Equation, (e.evaluateIn ask).run s = (e.evaluate s.get?, s) := by
  intro history s
  have hreflects : Reflects history s := by
    have hinitial := Reflects.nil.after (initial.map fun (name, v) => .put name v)
    rw [List.nil_append, ← ofList_eq_after] at hinitial
    exact hinitial.after changes
  refine ⟨hreflects.value, fun name => contains_iff.trans hreflects.mem_names,
    fun name => contains_iff.symm, hreflects.nodup, fun name hname => ?_, hreflects.ordered,
    fun name hname v => ?_, fun name v => ?_, size_eq_length_names s, fun name more => get?_after,
    fun e => e.evaluateIn_store s⟩
  · obtain ⟨i, hi⟩ := hreflects.exists_entered hname
    exact ⟨i, hi, fun j hj => hj.unique hi⟩
  · rw [names_insert, if_pos hname]
  · rw [names_insert, names_erase, if_neg (by simp)]

/-- One name is given another value, a second one is removed and comes in again after a third. -/
theorem after_history_reinserted :
    let number : Int → Value := fun n => .number (.int n)
    let initial : List (Text × Value) := [(['x'], number 1), (['y'], number 2)]
    let changes : List Change :=
      [.put ['x'] (number 5), .remove ['y'], .put ['z'] (number 7), .put ['y'] (number 4)]
    let history := initial.map (fun (name, v) => Change.put name v) ++ changes
    let s := (ofList initial).after changes
    s.names = [['x'], ['z'], ['y']] ∧ s.size = 3 ∧ LastPut history ['x'] (number 5) ∧
      (∃! i, Entered history ['y'] i) ∧ (s.insert ['x'] (number 6)).names = s.names ∧
      (s.after [.put ['z'] (number 9), .remove ['y']]).get? ['x'] = some (number 5) := by
  intro number initial changes history s
  obtain ⟨hvalue, -, -, -, hentered, -, hkeeps, -, hsize, hothers, -⟩ := after_history initial changes
  have hnames : s.names = [['x'], ['z'], ['y']] := rfl
  have hx : s.get? ['x'] = some (number 5) := rfl
  refine ⟨hnames, hsize, (hvalue _ _).mp hx, hentered _ ?_, hkeeps _ ?_ _, (hothers _ _ ?_).trans hx⟩
  · show ['y'] ∈ s.names
    simp [hnames]
  · show ['x'] ∈ s.names
    simp [hnames]
  · simp [Change.Concerns]

end Reckon.Store
