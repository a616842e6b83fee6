import LookupBench.Config.Check
import Mathlib.Data.List.Nodup

/-!
# Checked configurations

What holds of a configuration that passed its check.
-/

namespace LookupBench

theorem nodup_of_checkServers {seen : List String} {servers : List Server}
    (h : checkServers seen servers = .ok ()) :
    (servers.map (·.name)).Nodup ∧ ∀ server ∈ servers, server.name ∉ seen := by
  induction servers generalizing seen with
  | nil => simp
  | cons server rest ih =>
      unfold checkServers at h
      split at h
      · cases h
      · split at h
        · cases h
        · split at h
          · cases h
          next hseen =>
            obtain ⟨hnodup, hnew⟩ := ih h
            simp only [List.contains_eq_mem, decide_eq_true_eq] at hseen
            refine ⟨List.nodup_cons.2 ⟨fun hmem => ?_, hnodup⟩, fun other hother => ?_⟩
            · obtain ⟨other, hother, hname⟩ := List.mem_map.1 hmem
              exact hnew other hother (hname ▸ List.mem_cons_self)
            · rcases List.mem_cons.1 hother with rfl | hother
              · exact hseen
              · exact fun hmem => hnew other hother (List.mem_cons_of_mem _ hmem)

namespace Config

/-- How many seconds a configuration allows for something. -/
def seconds (config : Config) : Waiting → Binary64
  | .definition => config.timeout
  | .start => config.startTimeout
  | .stop => config.stopTimeout

theorem check_eq_ok {files : Files} {config : Config} (h : config.check files = .ok ()) :
    config.runs ≠ 0 ∧ checkServers [] config.servers = .ok () ∧
      ∀ waiting, isWaitable (config.seconds waiting) = true := by
  have hwaitable : ∀ {waiting : Waiting} {x : Binary64} {u : Unit},
      checkSeconds waiting x = .ok u → isWaitable x = true := by
    intro waiting x u hok
    unfold checkSeconds at hok
    split at hok
    · assumption
    · cases hok
  unfold check at h
  simp only [bind, Except.bind, throw, throwThe, MonadExceptOf.throw] at h
  repeat' split at h
  all_goals try cases h
  next hruns _ _ hdefinition _ _ hstart _ _ hstop _ _ hservers =>
    refine ⟨hruns, hservers, fun waiting => ?_⟩
    cases waiting with
    | definition => exact hwaitable hdefinition
    | start => exact hwaitable hstart
    | stop => exact hwaitable hstop

theorem isDirectory_of_check {files : Files} {config : Config} (h : config.check files = .ok ()) :
    files.isDirectory config.root = true := by
  cases hroot : files.isDirectory config.root with
  | true => rfl
  | false =>
      unfold check at h
      simp only [hroot, bind, Except.bind, throw, throwThe, MonadExceptOf.throw] at h
      split at h <;> cases h

theorem nodup_serverNames {files : Files} {config : Config} (h : config.check files = .ok ()) :
    config.serverNames.Nodup :=
  (nodup_of_checkServers (check_eq_ok h).2.1).1

theorem mem_serverNames_of_check {files : Files} {config : Config}
    (h : config.check files = .ok ()) {name : String} (hname : name ∈ config.withoutIndexing) :
    name ∈ config.serverNames := by
  have hindexing : config.checkIndexing = .ok () := by
    cases hindexing : config.checkIndexing with
    | ok _ => rfl
    | error fault =>
        unfold check at h
        simp only [hindexing, bind, Except.bind, throw, throwThe, MonadExceptOf.throw] at h
        repeat' split at h
        all_goals cases h
  unfold checkIndexing at hindexing
  split at hindexing
  · cases hindexing
  next hfind => simpa using List.find?_eq_none.1 hfind name hname

end Config

end LookupBench
