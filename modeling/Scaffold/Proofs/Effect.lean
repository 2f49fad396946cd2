import Scaffold.Run.Planner

/-! Steps as functions of the state in which they begin. -/

namespace Scaffold

namespace Effect

variable {σ α β : Type}

theorem pure_apply (a : α) (s : σ) : (pure a : Effect σ α) s = (.ok a, s) := rfl

theorem bind_apply (m : Effect σ α) (f : α → Effect σ β) (s : σ) :
    (m >>= f) s = match m s with
      | (.ok a, t) => f a t
      | (.error e, t) => (.error e, t) := by
  change (StateT.bind m (ExceptT.bindCont f)) s = _
  unfold StateT.bind
  rcases m s with ⟨_ | a, t⟩ <;> rfl

theorem throw_apply (f : Failure) (s : σ) : (throw f : Effect σ α) s = (.error f, s) := rfl

theorem get_apply (s : σ) : (get : Effect σ σ) s = (.ok s, s) := rfl

theorem set_apply (t s : σ) : (set t : Effect σ Unit) s = (.ok (), t) := rfl

theorem modify_apply (g : σ → σ) (s : σ) : (modify g : Effect σ Unit) s = (.ok (), g s) := rfl

theorem tryCatch_apply (m : Effect σ α) (h : Failure → Effect σ α) (s : σ) :
    (tryCatch m h) s = match m s with
      | (.ok a, t) => (.ok a, t)
      | (.error e, t) => h e t := by
  simp only [tryCatch, tryCatchThe, MonadExceptOf.tryCatch, ExceptT.tryCatch, ExceptT.mk, bind,
    StateT.bind]
  rcases m s with ⟨_ | a, t⟩ <;> rfl

/-- Work that takes every state to a related one, whether it fails or not. -/
def Keeps (R : σ → σ → Prop) (m : Effect σ α) : Prop := ∀ s, R s (m s).2

theorem Keeps.bind {R : σ → σ → Prop} {m : Effect σ α} {f : α → Effect σ β}
    (htrans : ∀ {s t u}, R s t → R t u → R s u) (hm : Keeps R m) (hf : ∀ a, Keeps R (f a)) :
    Keeps R (m >>= f) := by
  intro s
  rw [bind_apply]
  have hs := hm s
  rcases hx : m s with ⟨_ | a, t⟩
  · rw [hx] at hs
    exact hs
  · rw [hx] at hs
    exact htrans hs (hf a t)

end Effect

namespace Run

variable {σ α : Type}

theorem say_apply (level : Level) (text : String) (s : Session σ) :
    say level text s = (.ok (), { s with log := s.log ++ [⟨level, text⟩] }) := rfl

theorem setContext_apply (change : Context → Context) (s : Session σ) :
    setContext change s = (.ok (), { s with context := change s.context }) := rfl

theorem context_apply (s : Session σ) : context s = (.ok s.context, s) := rfl

theorem require_apply (kind : ArtifactKind) (s : Session σ) :
    require kind s = match s.context.handle? kind with
      | some h => (.ok h, s)
      | none => (.error (.notGenerated kind), s) := by
  unfold require
  rw [Effect.bind_apply, context_apply]
  dsimp only
  rcases s.context.handle? kind with _ | h <;> rfl

theorem classWhere?_apply (fits : Handle → Bool) (name : String) (s : Session σ) :
    classWhere? fits name s = (.ok (s.symbols.findWhere? fits name), s) := rfl

theorem onStore_apply (work : Effect σ α) (s : Session σ) :
    onStore work s = ((work s.store).1, { s with store := (work s.store).2 }) := rfl

theorem onStore_of_eq {work : Effect σ α} {s : Session σ} {x : Except Failure α} {t : σ}
    (h : work s.store = (x, t)) : onStore work s = (x, { s with store := t }) := by
  rw [onStore_apply, h]

end Run

namespace Store

variable {σ : Type}

theorem subdir_apply (S : Store σ) (directory name : String) (s : σ) :
    S.subdir directory name s =
      if S.isDir s (join directory name) then (.ok (join directory name), s)
      else match S.makeDir (join directory name) s with
        | (.ok (), t) => (.ok (join directory name), t)
        | (.error f, t) => (.error f, t) := by
  unfold subdir
  simp only [Effect.bind_apply, Effect.get_apply]
  by_cases h : S.isDir s (join directory name) = true
  · simp only [h, Bool.not_true, Bool.false_eq_true, if_false, if_true, Effect.pure_apply]
  · simp only [Bool.not_eq_true] at h
    simp only [h, Bool.not_false, if_true, Bool.false_eq_true, if_false, Effect.bind_apply]
    rcases S.makeDir (join directory name) s with ⟨_ | _, t⟩ <;> rfl

theorem prepare_apply (S : Store σ) (directory : String) (s : σ) :
    S.prepare directory s =
      if directory = "" ∨ S.isDir s directory = true then (.ok (), s) else S.makeDir directory s := by
  unfold prepare
  simp only [Effect.bind_apply, Effect.get_apply]
  by_cases h : directory = "" ∨ S.isDir s directory = true
  · have hc : (directory != "" && !S.isDir s directory) = false := by
      rcases h with h | h <;> simp [h]
    rw [if_pos h, hc]
    rfl
  · have hc : (directory != "" && !S.isDir s directory) = true := by simpa [not_or] using h
    rw [if_neg h, hc]
    rfl

theorem createFile_of_read {S : Store σ} {s : σ} {directory name : String} {held : String}
    (h : S.read s (join directory name) = some held) (content : String) :
    S.createFile directory name content s = (.ok ⟨join directory name, held, false⟩, s) := by
  unfold createFile
  simp only [Effect.bind_apply, Effect.get_apply, h]
  rfl

theorem createFile_of_absent {S : Store σ} {s : σ} {directory name : String}
    (h : S.read s (join directory name) = none) (content : String) :
    S.createFile directory name content s =
      match S.prepare directory s with
      | (.error f, t) => (.error f, t)
      | (.ok (), t) =>
        match S.write (join directory name) (normalize content) t with
        | (.error f, u) => (.error f, u)
        | (.ok (), u) => (.ok ⟨join directory name, normalize content, true⟩, u) := by
  unfold createFile
  simp only [Effect.bind_apply, Effect.get_apply, h]
  rcases S.prepare directory s with ⟨_ | _, t⟩
  · rfl
  · dsimp only
    rcases S.write (join directory name) (normalize content) t with ⟨_ | _, u⟩ <;> rfl

/-- What a store keeps when it makes a directory and when it writes, it keeps when it is asked for a
file. -/
theorem createFile_keeps {S : Store σ} {R : σ → σ → Prop} (hrefl : ∀ s, R s s)
    (htrans : ∀ {s t u}, R s t → R t u → R s u) (hmake : ∀ path, Effect.Keeps R (S.makeDir path))
    (hwrite : ∀ path content, Effect.Keeps R (S.write path content)) (directory name content : String) :
    Effect.Keeps R (S.createFile directory name content) := by
  have hprepare : Effect.Keeps R (S.prepare directory) := by
    intro s
    rw [prepare_apply]
    by_cases h : directory = "" ∨ S.isDir s directory = true
    · rw [if_pos h]
      exact hrefl s
    · rw [if_neg h]
      exact hmake directory s
  refine .bind htrans (fun s => hrefl s) fun state => ?_
  rcases S.read state (join directory name) with _ | held
  · exact .bind htrans hprepare fun _ => .bind htrans (hwrite _ _) fun _ s => hrefl s
  · exact fun s => hrefl s

end Store

namespace Run.Planner

variable {σ : Type} (p : Planner σ)

/-- The warning that the directory above has to do. -/
def fallback (parent name : String) (f : Failure) : LogLine where
  level := .warning
  text := "Cannot create " ++ Store.join parent name ++ ", using "
    ++ (if parent.isEmpty then "." else parent) ++ " instead: " ++ f.message

theorem subdir_apply (parent name : String) (s : Session σ) :
    p.subdir parent name s =
      match p.store.subdir parent name s with
      | (.ok directory, t) => (.ok directory, t)
      | (.error f, t) =>
        if f.origin = .store then
          (.ok parent, { t with log := t.log ++ [fallback parent name f] })
        else (.error f, t) := by
  unfold subdir
  rw [Effect.tryCatch_apply]
  rcases p.store.subdir parent name s with ⟨f | a, t⟩
  · by_cases h : f.origin = .store
    · simp only [h, bne_self_eq_false, Bool.false_eq_true, if_false, if_true, Effect.bind_apply,
        say_apply, Effect.pure_apply]
      rfl
    · simp only [bne_iff_ne, ne_eq, h, not_false_eq_true, if_true, if_false, Effect.bind_apply,
        Effect.throw_apply]
  · rfl

theorem subdir_of_isDir {parent name : String} {s : Session σ}
    (h : p.store.isDir s (Store.join parent name) = true) :
    p.subdir parent name s = (.ok (Store.join parent name), s) := by
  rw [subdir_apply, Store.subdir_apply, if_pos h]

theorem subdir_of_missing {parent name : String} {s : Session σ}
    (h : p.store.isDir s (Store.join parent name) = false) :
    p.subdir parent name s =
      match p.store.makeDir (Store.join parent name) s with
      | (.ok (), t) => (.ok (Store.join parent name), t)
      | (.error f, t) =>
        if f.origin = .store then
          (.ok parent, { t with log := t.log ++ [fallback parent name f] })
        else (.error f, t) := by
  rw [subdir_apply, Store.subdir_apply, if_neg (Bool.eq_false_iff.1 h)]
  rcases p.store.makeDir (Store.join parent name) s with ⟨_ | _, t⟩ <;> rfl

end Run.Planner

end Scaffold
