import MiniSql.Database.Session

/-!
# The schema of the booking platform

The creation statements of the six relations of a platform for booking drones. Creating a
relation that exists has no effect, so the schema can be set up on any database and any
number of times.
-/

namespace MiniSql.Schema

/-- Users of the platform; no two share an address of electronic mail. -/
def users : String := "
    CREATE TABLE IF NOT EXISTS users (
      id INTEGER PRIMARY KEY AUTOINCREMENT,
      name TEXT NOT NULL,
      email TEXT UNIQUE NOT NULL,
      password TEXT NOT NULL,
      role TEXT NOT NULL CHECK(role IN ('USER', 'PROVIDER', 'ADMIN')),
      phone TEXT,
      created_at DATETIME DEFAULT CURRENT_TIMESTAMP
    )"

/-- Operators of drones, one for each user who is a provider. -/
def providers : String := "
    CREATE TABLE IF NOT EXISTS providers (
      id INTEGER PRIMARY KEY AUTOINCREMENT,
      user_id INTEGER UNIQUE NOT NULL,
      company TEXT NOT NULL,
      cities TEXT NOT NULL,
      status TEXT NOT NULL DEFAULT 'PENDING' CHECK(status IN ('PENDING', 'APPROVED', 'REJECTED')),
      latitude REAL,
      longitude REAL,
      created_at DATETIME DEFAULT CURRENT_TIMESTAMP,
      FOREIGN KEY (user_id) REFERENCES users(id) ON DELETE CASCADE
    )"

/-- Drones offered by providers. -/
def drones : String := "
    CREATE TABLE IF NOT EXISTS drones (
      id INTEGER PRIMARY KEY AUTOINCREMENT,
      provider_id INTEGER NOT NULL,
      name TEXT NOT NULL,
      type TEXT NOT NULL,
      price_per_hour REAL NOT NULL,
      available INTEGER DEFAULT 1,
      specs TEXT,
      created_at DATETIME DEFAULT CURRENT_TIMESTAMP,
      FOREIGN KEY (provider_id) REFERENCES providers(id) ON DELETE CASCADE
    )"

/-- The services that can be booked. -/
def services : String := "
    CREATE TABLE IF NOT EXISTS services (
      id INTEGER PRIMARY KEY AUTOINCREMENT,
      name TEXT NOT NULL,
      description TEXT,
      base_price REAL NOT NULL,
      category TEXT NOT NULL,
      image_url TEXT,
      created_at DATETIME DEFAULT CURRENT_TIMESTAMP
    )"

/-- Bookings of a service by a user with a provider. -/
def bookings : String := "
    CREATE TABLE IF NOT EXISTS bookings (
      id INTEGER PRIMARY KEY AUTOINCREMENT,
      user_id INTEGER NOT NULL,
      provider_id INTEGER NOT NULL,
      service_id INTEGER NOT NULL,
      drone_id INTEGER,
      date TEXT NOT NULL,
      time TEXT NOT NULL,
      latitude REAL NOT NULL,
      longitude REAL NOT NULL,
      address TEXT,
      status TEXT NOT NULL DEFAULT 'PENDING' CHECK(status IN ('PENDING', 'CONFIRMED', 'IN_PROGRESS', 'COMPLETED', 'CANCELLED')),
      amount REAL NOT NULL,
      duration_hours INTEGER DEFAULT 1,
      notes TEXT,
      created_at DATETIME DEFAULT CURRENT_TIMESTAMP,
      FOREIGN KEY (user_id) REFERENCES users(id) ON DELETE CASCADE,
      FOREIGN KEY (provider_id) REFERENCES providers(id) ON DELETE CASCADE,
      FOREIGN KEY (service_id) REFERENCES services(id) ON DELETE CASCADE,
      FOREIGN KEY (drone_id) REFERENCES drones(id) ON DELETE SET NULL
    )"

/-- Payments for bookings. -/
def payments : String := "
    CREATE TABLE IF NOT EXISTS payments (
      id INTEGER PRIMARY KEY AUTOINCREMENT,
      booking_id INTEGER NOT NULL,
      amount REAL NOT NULL,
      status TEXT NOT NULL DEFAULT 'PENDING' CHECK(status IN ('PENDING', 'PAID', 'FAILED', 'REFUNDED')),
      fake_order_id TEXT NOT NULL,
      fake_payment_id TEXT,
      payment_method TEXT DEFAULT 'CARD',
      created_at DATETIME DEFAULT CURRENT_TIMESTAMP,
      FOREIGN KEY (booking_id) REFERENCES bookings(id) ON DELETE CASCADE
    )"

/-- The creation statements, each after those it refers to. -/
def statements : List String :=
  [users, providers, drones, services, bookings, payments]

/-- Creates the relations of the platform. -/
def create (db : Database) : Answer Unit :=
  (db.executeAll statements).andThen fun db _ =>
    ⟨.ok (), db, [.schemaReady statements.length]⟩

end MiniSql.Schema
