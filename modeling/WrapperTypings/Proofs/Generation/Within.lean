import WrapperTypings.Proofs.Generation.Output

set_option autoImplicit false

namespace WrapperTypings

open Run (Within within_pure within_fail within_lift within_get within_modify within_change)

structure Frame.Serves (frame : Frame) (version : String) : Prop where
  logged : ∀ world entries, frame.allows world (world.logged entries)
  asked : ∀ world, frame.allows world (world.asked version)
  written : ∀ (world : World) path content tree,
    world.tree.write world.here path content = .ok tree → frame.allows world { world with tree }
  made : ∀ (world : World) path tree,
    world.tree.makeDirectory world.here path = .ok tree → frame.allows world { world with tree }
  removed : ∀ world location, frame.allows world (world.without location)

namespace Frame.Serves

section
variable {α : Type} {frame : Frame} {version : String} {source : Archive.Source}

private theorem within_write (serves : Serves frame version) (level : LogLevel)
    (origin message : String) :
    Within frame (Run.write level origin message) :=
  (Run.observes_write level origin message).within serves.logged

private theorem within_ask (serves : Serves frame version) {directory : Files.Path}
    (fetches : Within frame (source version directory)) :
    Within frame (Archive.ask source version directory) := by
  have recorded : Within frame
      (modify (fun world => { world with fetched := world.fetched ++ [version] }) : Run PUnit) :=
    within_modify serves.asked
  exact recorded.bind (fun _ => fetches)

private theorem within_withScratch (serves : Serves frame version) {action : Files.Path → Run α}
    (acts : ∀ scratch, Within frame (action scratch)) :
    Within frame (Session.withScratch action) := by
  refine within_get.bind (fun world => ?_)
  refine (within_change (fun before => serves.made before _)).bind (fun _ => ?_)
  refine (acts _).outcome.bind (fun outcome => ?_)
  exact (within_modify (fun after => serves.removed after _)).bind (fun _ => within_lift id outcome)

private theorem within_session (serves : Serves frame version) (local? : Option Files.Path)
    (fetches : local? = none → ∀ directory, Within frame (source version directory))
    {action : Session → Run α} (acts : ∀ session, Within frame (action session)) :
    Within frame (Session.run local? version source action) := by
  have checked (tree : Files.Path) : Within frame (SourceTree.check tree) :=
    (SourceTree.observes_check tree).within serves.logged
  cases local? with
  | some tree => exact (checked tree).bind (fun tree => acts _)
  | none =>
      refine within_get.bind (fun world => ?_)
      refine (serves.within_withScratch (fun scratch => ?_)).bind
        (fun result => (serves.within_write _ _ _).bind (fun _ => within_pure result))
      exact (serves.within_ask (fetches rfl scratch)).bind (fun brought =>
        (checked brought).bind (fun tree => (serves.within_write _ _ _).bind (fun _ => acts _)))

private theorem within_writeText (serves : Serves frame version) (path text : String)
    (failure : Files.FileFault → Failure) : Within frame (Run.writeText path text failure) := by
  unfold Run.writeText
  cases Text.unencodable? text with
  | none => exact within_change (fun before => serves.written before _ _)
  | some fault =>
      exact (within_change (fun before => serves.written before _ _)).bind
        (fun _ => within_fail _)

private theorem within_finish (serves : Serves frame version) (generator : Generator)
    (variant : Variant)
    (path : Files.Path) (catalog : Catalog) :
    Within frame (generator.finish variant path catalog) := by
  have saved (document : String) : Within frame (Generator.save variant path document) :=
    (serves.within_writeText _ _ _).bind (fun _ =>
      (serves.within_write _ _ _).bind (fun _ => within_pure path))
  exact (Within.forM (fun _ _ => serves.within_write .warning _ _)).bind (fun _ =>
    (within_lift _ _).bind (fun document => saved document))

theorem within_generate {generator : Generator} (serves : Serves frame generator.version)
    (fetches : generator.localSource = none →
      ∀ directory, Within frame (generator.source generator.version directory))
    (variant : Variant) : Within frame (generator.generate variant) := by
  have looks : Within frame (generator.outputPath variant) := by
    intro world
    rw [Generator.run_outputPath]
    exact frame.refl world
  have loads (session : Session) : Within frame (generator.loadIn session) :=
    (SourceTree.observes_load _ _ _ _).within serves.logged
  rw [Generator.generate_eq]
  exact looks.bind (fun path => (serves.within_session _ fetches loads).bind (fun catalog =>
    serves.within_finish generator variant path catalog))

end

end Frame.Serves

end WrapperTypings
