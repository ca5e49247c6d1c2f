import VectorTable.Program.Basic

/-!
# The paths of a program

A path of a program is a history and a result that some replies lead to. Every run against a server is a path, so what holds of all paths holds whatever the server does. The paths of a program that is put together from others are the paths of its parts, one after the other.
-/

namespace VectorTable

variable {α β σ : Type}

namespace Program

/-- The histories and results of a program that starts with what is known, one for each sequence of replies. -/
inductive Path {α : Type} : Program α → Memory → History → Except Failure α → Prop
  | done (result : Except Failure α) (m : Memory) : Path (done result) m [] result
  | ask {contact : Contact} {next : Reply → Program α} {m : Memory} {h : History}
      {r : Except Failure α} (reply : Reply) (rest : Path (next reply) m h r) :
      Path (ask contact next) m (.contact contact reply :: h) r
  | tell {note : Note} {next : Program α} {m : Memory} {h : History} {r : Except Failure α}
      (rest : Path next (m.after (.note note)) h r) : Path (tell note next) m (.note note :: h) r
  | look {next : Memory → Program α} {m : Memory} {h : History} {r : Except Failure α}
      (rest : Path (next m) m h r) : Path (look next) m h r

theorem path_run (server : Server σ) (p : Program α) (state : σ) (m : Memory) :
    Path p m (p.run server state m).history (p.run server state m).result := by
  induction p generalizing state m with
  | done result => exact .done result m
  | ask contact next ih => exact .ask _ (ih _ _ _)
  | tell note next ih => exact .tell (ih _ _)
  | look next ih => exact .look (ih _ _ _)

theorem exists_state_of_mem_run {server : Server σ} {p : Program α} {state : σ} {m : Memory}
    {contact : Contact} {reply : Reply}
    (h : .contact contact reply ∈ (p.run server state m).history) :
    ∃ state, (server state contact).1 = reply := by
  induction p generalizing state m with
  | done result => cases h
  | ask asked next ih =>
    rcases List.mem_cons.mp h with heq | hrest
    · cases heq
      exact ⟨state, rfl⟩
    · exact ih _ hrest
  | tell note next ih =>
    rcases List.mem_cons.mp h with heq | hrest
    · cases heq
    · exact ih hrest
  | look next ih => exact ih _ h

theorem path_done_iff {result r : Except Failure α} {m : Memory} {h : History} :
    Path (done result) m h r ↔ h = [] ∧ r = result := by
  constructor
  · rintro ⟨⟩
    exact ⟨rfl, rfl⟩
  · rintro ⟨rfl, rfl⟩
    exact .done r m

theorem path_tell_iff {note : Note} {next : Program α} {m : Memory} {h : History}
    {r : Except Failure α} :
    Path (tell note next) m h r ↔
      ∃ rest, h = .note note :: rest ∧ Path next (m.after (.note note)) rest r := by
  constructor
  · rintro ⟨⟩
    exact ⟨_, rfl, ‹_›⟩
  · rintro ⟨rest, rfl, hrest⟩
    exact .tell hrest

theorem path_look_iff {next : Memory → Program α} {m : Memory} {h : History}
    {r : Except Failure α} : Path (look next) m h r ↔ Path (next m) m h r := by
  constructor
  · rintro ⟨⟩
    assumption
  · exact .look

theorem path_ask_iff {contact : Contact} {next : Reply → Program α} {m : Memory} {h : History}
    {r : Except Failure α} :
    Path (ask contact next) m h r ↔
      ∃ reply rest, h = .contact contact reply :: rest ∧ Path (next reply) m rest r := by
  constructor
  · rintro ⟨⟩
    exact ⟨_, _, rfl, ‹_›⟩
  · rintro ⟨reply, rest, rfl, hrest⟩
    exact .ask reply hrest

theorem path_settle_iff {p : Program α} {k : Except Failure α → Program β} {m : Memory}
    {h : History} {r : Except Failure β} :
    Path (p.settle k) m h r ↔
      ∃ h₁ h₂ result, h = h₁ ++ h₂ ∧ Path p m h₁ result ∧ Path (k result) (m.afterAll h₁) h₂ r := by
  induction p generalizing m h with
  | done result =>
    simp only [settle, path_done_iff]
    constructor
    · intro hk
      exact ⟨[], h, result, rfl, ⟨rfl, rfl⟩, hk⟩
    · rintro ⟨_, h₂, _, rfl, ⟨rfl, rfl⟩, hk⟩
      exact hk
  | ask contact next ih =>
    simp only [settle, path_ask_iff, ih]
    constructor
    · rintro ⟨reply, _, rfl, h₁, h₂, result, rfl, hnext, hk⟩
      exact ⟨.contact contact reply :: h₁, h₂, result, rfl, ⟨reply, h₁, rfl, hnext⟩, hk⟩
    · rintro ⟨_, h₂, result, rfl, ⟨reply, h₁, rfl, hnext⟩, hk⟩
      exact ⟨reply, h₁ ++ h₂, rfl, h₁, h₂, result, rfl, hnext, hk⟩
  | tell note next ih =>
    simp only [settle, path_tell_iff, ih]
    constructor
    · rintro ⟨_, rfl, h₁, h₂, result, rfl, hnext, hk⟩
      exact ⟨.note note :: h₁, h₂, result, rfl, ⟨h₁, rfl, hnext⟩, hk⟩
    · rintro ⟨_, h₂, result, rfl, ⟨h₁, rfl, hnext⟩, hk⟩
      exact ⟨h₁ ++ h₂, rfl, h₁, h₂, result, rfl, hnext, hk⟩
  | look next ih => simp only [settle, path_look_iff, ih]

theorem path_bind_iff {p : Program α} {f : α → Program β} {m : Memory} {h : History}
    {r : Except Failure β} :
    Path (p >>= f) m h r ↔
      (∃ failure, Path p m h (.error failure) ∧ r = .error failure) ∨
        ∃ h₁ h₂ a, h = h₁ ++ h₂ ∧ Path p m h₁ (.ok a) ∧ Path (f a) (m.afterAll h₁) h₂ r := by
  refine path_settle_iff.trans ⟨?_, ?_⟩
  · rintro ⟨h₁, h₂, result, rfl, hp, hk⟩
    cases result with
    | ok a => exact .inr ⟨h₁, h₂, a, rfl, hp, hk⟩
    | error failure =>
      obtain ⟨rfl, rfl⟩ := path_done_iff.mp hk
      rw [List.append_nil]
      exact .inl ⟨failure, hp, rfl⟩
  · rintro (⟨failure, hp, rfl⟩ | ⟨h₁, h₂, a, rfl, hp, hf⟩)
    · exact ⟨h, [], .error failure, (List.append_nil h).symm, hp, .done _ _⟩
    · exact ⟨h₁, h₂, .ok a, rfl, hp, hf⟩

theorem path_bind_ok_iff {p : Program α} {f : α → Program β} {m : Memory} {h : History} {b : β} :
    Path (p >>= f) m h (.ok b) ↔
      ∃ h₁ h₂ a, h = h₁ ++ h₂ ∧ Path p m h₁ (.ok a) ∧ Path (f a) (m.afterAll h₁) h₂ (.ok b) := by
  refine path_bind_iff.trans ⟨?_, .inr⟩
  rintro (⟨_, -, heq⟩ | hboth)
  · cases heq
  · exact hboth

theorem path_bind_pure_iff {p : Program α} {f : α → β} {m : Memory} {h : History}
    {r : Except Failure β} :
    Path (p >>= fun a => pure (f a)) m h r ↔ ∃ result, Path p m h result ∧ r = f <$> result := by
  refine path_bind_iff.trans ⟨?_, ?_⟩
  · rintro (⟨failure, hp, rfl⟩ | ⟨h₁, h₂, a, rfl, hp, hlast⟩)
    · exact ⟨.error failure, hp, rfl⟩
    · obtain ⟨rfl, rfl⟩ := path_done_iff.mp hlast
      rw [List.append_nil]
      exact ⟨.ok a, hp, rfl⟩
  · rintro ⟨result, hp, rfl⟩
    cases result with
    | error failure => exact .inl ⟨failure, hp, rfl⟩
    | ok a => exact .inr ⟨h, [], a, (List.append_nil h).symm, hp, .done _ _⟩

theorem path_ofExcept_bind_iff {x : Except Failure α} {f : α → Program β} {m : Memory} {h : History}
    {r : Except Failure β} :
    Path (ofExcept x >>= f) m h r ↔
      (∃ failure, x = .error failure ∧ h = [] ∧ r = .error failure) ∨
        ∃ a, x = .ok a ∧ Path (f a) m h r := by
  cases x with
  | error failure =>
    refine path_done_iff.trans ⟨fun ⟨hh, hr⟩ => .inl ⟨failure, rfl, hh, hr⟩, ?_⟩
    rintro (⟨_, heq, hh, hr⟩ | ⟨_, heq, -⟩)
    · cases heq
      exact ⟨hh, hr⟩
    · cases heq
  | ok a =>
    refine ⟨fun hf => .inr ⟨a, rfl, hf⟩, ?_⟩
    rintro (⟨_, heq, -⟩ | ⟨_, heq, hf⟩)
    · cases heq
    · cases heq
      exact hf

theorem path_ofExcept_bind_ok_iff {x : Except Failure α} {f : α → Program β} {m : Memory}
    {h : History} {b : β} :
    Path (ofExcept x >>= f) m h (.ok b) ↔ ∃ a, x = .ok a ∧ Path (f a) m h (.ok b) := by
  refine path_ofExcept_bind_iff.trans ⟨?_, .inr⟩
  rintro (⟨_, -, -, heq⟩ | hboth)
  · cases heq
  · exact hboth

theorem eq_of_path_contact_ok {contact : Contact} {m : Memory} {h : History} {value : Value}
    (hpath : Path (Program.contact contact) m h (.ok value)) :
    h = [.contact contact (.ok value)] := by
  obtain ⟨reply, rest, rfl, hrest⟩ := path_ask_iff.mp hpath
  cases reply with
  | ok answer =>
    obtain ⟨rfl, heq⟩ := path_done_iff.mp hrest
    cases heq
    rfl
  | error fault => cases (path_done_iff.mp hrest).2

theorem path_contact_bind_iff {contact : Contact} {f : Value → Program α} {m : Memory} {h : History}
    {r : Except Failure α} :
    Path (Program.contact contact >>= f) m h r ↔
      (∃ fault, h = [.contact contact (.error fault)] ∧ r = .error (.fault fault)) ∨
        ∃ value rest, h = .contact contact (.ok value) :: rest ∧ Path (f value) m rest r := by
  refine path_ask_iff.trans ⟨?_, ?_⟩
  · rintro ⟨reply, rest, rfl, hrest⟩
    cases reply with
    | ok value => exact .inr ⟨value, rest, rfl, hrest⟩
    | error fault =>
      obtain ⟨rfl, rfl⟩ := path_done_iff.mp hrest
      exact .inl ⟨fault, rfl, rfl⟩
  · rintro (⟨fault, rfl, rfl⟩ | ⟨value, rest, rfl, hrest⟩)
    · exact ⟨.error fault, [], rfl, .done _ _⟩
    · exact ⟨.ok value, rest, rfl, hrest⟩

end Program

end VectorTable
