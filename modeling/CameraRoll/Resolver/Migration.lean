import CameraRoll.Naming.Regulation
import CameraRoll.Resolver.Basic

/-!
Moving all pictures from the private store to the external location. Each picture is copied under
its canonical name and then removed; its thumbnail stays inside and follows it by name.
-/

namespace CameraRoll.Resolver

variable {m : Type → Type} [Monad m]

/-- A step without which a picture cannot be moved. -/
def migrating {α : Type} (act : ExceptT ResolverError m α) : ExceptT ResolverError m α :=
  act.adapt .migration

/-- Renames the thumbnail of a picture that was moved under another name. Failure does not matter:
thumbnails can be made again. -/
def followThumbnail (resolver : Resolver m) (picture copied : StoredFile)
    (thumbnail : Option StoredFile) : ExceptT ResolverError m Unit :=
  match thumbnail with
  | some thumbnail =>
    if copied.name = picture.name then return ()
    else attempt (resolver.relocate thumbnail (Naming.thumbnailName copied.name))
  | none => return ()

/-- Moves one picture. Only reading and copying can fail. -/
def migratePicture (resolver : Resolver m) (thumbnails : List StoredFile) (picture : StoredFile) :
    ExceptT ResolverError m Unit := do
  let content ← migrating (resolver.read picture)
  let copied ← migrating
    (resolver.save .external (Naming.regulateName picture.name resolver.zone) content)
  followThumbnail resolver picture copied
    (thumbnails.find? (·.name = Naming.thumbnailName picture.name))
  attempt (resolver.remove picture)

/-- Moves pictures one after the other, up to the first failure. -/
def migrateAll (resolver : Resolver m) (thumbnails : List StoredFile) :
    List StoredFile → ExceptT ResolverError m Unit
  | [] => return ()
  | picture :: rest => do
    resolver.migratePicture thumbnails picture
    resolver.migrateAll thumbnails rest

/-- Moves all pictures that are inside. -/
def migrate (resolver : Resolver m) : ExceptT ResolverError m Unit := do
  let files ← migrating (resolver.enumerate .internal)
  resolver.migrateAll (files.filter (·.isThumbnail)) (files.filter (!·.isThumbnail))

end CameraRoll.Resolver
