import MusicQuery.AnswerCache
import MusicQuery.Library.Audit
import MusicQuery.Live.Channel
import MusicQuery.Live.Library

namespace MusicQuery

structure Service where
  live : LiveLibrary
  cache : Option AnswerCache
  channel : Channel

structure ServiceCounts where
  tracks : Nat
  version : Nat
  textKeys : Nat
  valueEntries : Nat
  playlists : Nat
  hits : Nat
  misses : Nat
  cached : Nat
  cacheCapacity : Nat
deriving DecidableEq

namespace Service

def start (settings : Settings) : Service where
  live := { settings }
  cache := AnswerCache.ofSize? settings.cacheSize
  channel := Channel.ofCapacity settings.notificationCapacity

def settings (s : Service) : Settings := s.live.settings

def library (s : Service) : Library := s.live.library

def publish (s : Service) (step : List Update × LiveLibrary) : Service :=
  { s with live := step.2, channel := s.channel.sendAll step.1 }

def insert (s : Service) (o : Occasion) (t : Track) : Service := s.publish (s.live.insert o t)

def erase (s : Service) (o : Occasion) (id : TrackId) : Service := s.publish (s.live.erase o id)

def replaceAll (s : Service) (o : Occasion) (ts : List Track) : Service := s.publish (s.live.replaceAll o ts)

def register (s : Service) (o : Occasion) (p : Playlist) : Except RuleError Service := do
  p.query.rule.validate
  return s.publish (s.live.register o p)

def unregister (s : Service) (id : Uuid) : Service := { s with live := s.live.unregister id }

def refresh (s : Service) (o : Occasion) (id : Uuid) : Service := s.publish (s.live.refresh o id)

def evaluate (s : Service) (now : Instant) (shuffle : Shuffle) (q : Query) : List Edition × Service :=
  let fresh := s.library.answer s.settings now shuffle q
  match s.cache, q.key? with
  | some cache, some key =>
    match cache.lookup key s.library.version with
    | (some answer, cache) => (answer, { s with cache := some cache })
    | (none, cache) => (fresh, { s with cache := some (cache.insert key s.library.version fresh) })
  | _, _ => (fresh, s)

def explain (s : Service) (now : Instant) (rule : Rule) : Plan := rule.plan s.settings.valueIndexRanges now

def contents? (s : Service) (id : Uuid) : Option (List Edition) := (s.live.list? id).map (·.published)

def playlist? (s : Service) (id : Uuid) : Option Playlist := (s.live.list? id).map (·.playlist)

def subscribe (s : Service) : Reader := s.channel.subscribe

def stop (s : Service) : Service := { s with channel := s.channel.close }

def counts (s : Service) : ServiceCounts where
  tracks := s.library.size
  version := s.library.version
  textKeys := s.library.catalog.textKeys
  valueEntries := s.library.catalog.valueEntries
  playlists := s.live.board.length
  hits := s.cache.elim 0 (·.hits)
  misses := s.cache.elim 0 (·.misses)
  cached := s.cache.elim 0 (·.size)
  cacheCapacity := s.cache.elim 0 (·.capacity)

end Service

end MusicQuery
